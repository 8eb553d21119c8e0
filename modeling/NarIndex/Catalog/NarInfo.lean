import NarIndex.Catalog.Readable

/-!
# NarIndex.Catalog.NarInfo

The record of one store path.  A record without a URL is a placeholder, which reserves the hash
until the rest is known.
-/

namespace NarIndex

/-- What is known about a store path; `ν` is what a column of integers holds. -/
structure NarInfo.Details (ν : Type) where
  storePath : Option String := none
  url : Option String := none
  compression : Option String := none
  fileHash : Option String := none
  fileSize : Option ν := none
  narHash : Option String := none
  narSize : Option ν := none
  deriver : Option String := none
  system : Option String := none
  contentAddress : Option String := none
  deriving DecidableEq, Repr

/-- The record of a store path; `ν` is what a column of integers holds.  Times are in
microseconds. -/
structure NarInfo (ν : Type) where
  id : Int
  hash : String
  details : NarInfo.Details ν
  createdAt : ν
  updatedAt : Option ν
  lastAccessedAt : ν
  deriving DecidableEq, Repr

namespace NarInfo

variable {ν : Type}

/-- Details as a table keeps them. -/
def Details.kept (details : Details Int) : Details Catalog.Value :=
  { details with
    fileSize := details.fileSize.map .integer, narSize := details.narSize.map .integer }

instance : Catalog.Readable NarInfo where
  read row := do
    let fileSize ← Catalog.readOptionalInteger "file_size" row.details.fileSize
    let narSize ← Catalog.readOptionalInteger "nar_size" row.details.narSize
    let createdAt ← Catalog.readTime "created_at" row.createdAt
    let updatedAt ← Catalog.readOptionalTime "updated_at" row.updatedAt
    let lastAccessedAt ← Catalog.readTime "last_accessed_at" row.lastAccessedAt
    let details := { row.details with fileSize, narSize }
    return { row with details, createdAt, updatedAt, lastAccessedAt }

/-- Whether a record is more than a placeholder. -/
def isMigrated (row : NarInfo ν) : Bool :=
  row.details.url.isSome

/-- A record as it is when it comes in. -/
def fresh (id : Int) (hash : String) (details : Details ν) (now : ν) : NarInfo ν :=
  ⟨id, hash, details, now, none, now⟩

/-- A record marked as used now. -/
def touched (now : ν) (row : NarInfo ν) : NarInfo ν :=
  { row with updatedAt := some now, lastAccessedAt := now }

/-- A record with other details. -/
def amended (details : Details ν) (now : ν) (row : NarInfo ν) : NarInfo ν :=
  { row.touched now with details }

/-- Whether new details fill a record: it is a placeholder, and they have a URL. -/
def isFilledBy (details : Details ν) (row : NarInfo ν) : Bool :=
  row.details.url.isNone && details.url.isSome

/-- A record after new details for its hash came in.  Column by column, the new value is taken if
the details fill the record, and the old one stays if they do not. -/
def merged (details : Details ν) (now : ν) (row : NarInfo ν) : NarInfo ν :=
  let fills := row.isFilledBy details
  let old := row.details
  { row with
    details := {
      storePath := if fills then details.storePath else old.storePath
      url := if fills then details.url else old.url
      compression := if fills then details.compression else old.compression
      fileHash := if fills then details.fileHash else old.fileHash
      fileSize := if fills then details.fileSize else old.fileSize
      narHash := if fills then details.narHash else old.narHash
      narSize := if fills then details.narSize else old.narSize
      deriver := if fills then details.deriver else old.deriver
      system := if fills then details.system else old.system
      contentAddress := if fills then details.contentAddress else old.contentAddress }
    updatedAt := if fills then some now else row.updatedAt
    lastAccessedAt := if fills then now else row.lastAccessedAt }

/-- Merging is all or nothing. -/
theorem merged_eq (details : Details ν) (now : ν) (row : NarInfo ν) :
    row.merged details now = if row.isFilledBy details then row.amended details now else row := by
  unfold merged
  split <;> simp_all [amended, touched]

end NarInfo

end NarIndex
