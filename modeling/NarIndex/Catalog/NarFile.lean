import NarIndex.Catalog.Readable

/-!
# NarIndex.Catalog.NarFile

One stored form of a NAR.  The same NAR can be stored in several forms, which differ in compression
or in the query that asks for them.
-/

namespace NarIndex

/-- What tells stored forms apart. -/
structure NarFile.Key where
  hash : String
  compression : String := ""
  query : String := ""
  deriving DecidableEq, Repr

/-- A key as text: the compression in brackets and the query behind a question mark, unless they are
empty. -/
def NarFile.Key.text (key : NarFile.Key) : String :=
  key.hash ++ (if key.compression.isEmpty then "" else " (" ++ key.compression ++ ")")
    ++ (if key.query.isEmpty then "" else "?" ++ key.query)

/-- A stored form of a NAR; `ν` is what a column of integers holds.  Times are in microseconds. -/
structure NarFile (ν : Type) where
  id : Int
  key : NarFile.Key
  fileSize : ν
  totalChunks : ν
  chunkingStartedAt : Option ν
  verifiedAt : Option ν
  createdAt : ν
  updatedAt : Option ν
  lastAccessedAt : ν
  deriving DecidableEq, Repr

namespace NarFile

variable {ν : Type}

instance : Catalog.Readable NarFile where
  read row := do
    let fileSize ← Catalog.readNumber "file_size" Catalog.maxInteger row.fileSize
    let totalChunks ← Catalog.readNumber "total_chunks" Catalog.maxInteger row.totalChunks
    let chunkingStartedAt ← Catalog.readOptionalTime "chunking_started_at" row.chunkingStartedAt
    let verifiedAt ← Catalog.readOptionalTime "verified_at" row.verifiedAt
    let createdAt ← Catalog.readTime "created_at" row.createdAt
    let updatedAt ← Catalog.readOptionalTime "updated_at" row.updatedAt
    let lastAccessedAt ← Catalog.readTime "last_accessed_at" row.lastAccessedAt
    return ⟨row.id, row.key, fileSize, totalChunks, chunkingStartedAt, verifiedAt, createdAt,
      updatedAt, lastAccessedAt⟩

/-- Whether a file has been cut into chunks: there are some. -/
def isChunked (row : NarFile Int) : Bool :=
  0 < row.totalChunks

/-- A file as it is when it comes in. -/
def fresh (id : Int) (key : Key) (fileSize totalChunks now : ν) : NarFile ν :=
  ⟨id, key, fileSize, totalChunks, none, none, now, none, now⟩

/-- A file marked as used now. -/
def touched (now : ν) (row : NarFile ν) : NarFile ν :=
  { row with updatedAt := some now, lastAccessedAt := now }

end NarFile

end NarIndex
