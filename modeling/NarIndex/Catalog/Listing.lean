import NarIndex.Catalog.Lookup
import NarIndex.Compression

/-!
# NarIndex.Catalog.Listing

The lists that the jobs around the store work through: what is migrated, what waits to be cut into
chunks, what is compressed, and what nothing refers to.  Hashes are listed in ascending order, rows
by id unless said otherwise.
-/

namespace NarIndex.Catalog

/-! ## hashes -/

/-- The hashes of the NarInfos that meet a condition. -/
def hashesWhere (catalog : Catalog) (p : NarInfo Value → Bool) : List String :=
  Text.sorted ((catalog.narInfos.filter p).map (·.hash))

def hashes (catalog : Catalog) : List String :=
  catalog.hashesWhere fun _ => true

/-- The hashes of the NarInfos with a URL of their own. -/
def migratedHashes (catalog : Catalog) : List String :=
  catalog.hashesWhere (·.isMigrated)

/-- The hashes of the placeholders. -/
def unmigratedHashes (catalog : Catalog) : List String :=
  catalog.hashesWhere (!·.isMigrated)

def hashesByUrl (catalog : Catalog) (url : String) : List String :=
  catalog.hashesWhere (·.details.url == some url)

def hashesOfFile (catalog : Catalog) (narFile : Int) : List String :=
  catalog.hashesWhere fun row => catalog.isLinked row.id narFile

/-- Whether the NarInfo of a hash is migrated; an unknown hash is not. -/
def isMigrated (catalog : Catalog) (hash : String) : Bool :=
  catalog.narInfos.any fun row => row.hash == hash && row.isMigrated

/-! ## links -/

def lacksFile (catalog : Catalog) (row : NarInfo Value) : Bool :=
  !catalog.fileLinks.any (·.narInfo == row.id)

def lacksNarInfo (catalog : Catalog) (row : NarFile Value) : Bool :=
  !catalog.fileLinks.any (·.narFile == row.id)

def lacksPlace (catalog : Catalog) (row : Chunk Value) : Bool :=
  !catalog.chunkLinks.any (·.chunk == row.id)

def orphanedNarInfos (catalog : Catalog) : List (NarInfo Value) :=
  byId (·.id) (catalog.narInfos.filter catalog.lacksFile)

def orphanedFiles (catalog : Catalog) : List (NarFile Value) :=
  byId (·.id) (catalog.narFiles.filter catalog.lacksNarInfo)

def orphanedChunks (catalog : Catalog) : List (Chunk Value) :=
  byId (·.id) (catalog.chunks.filter catalog.lacksPlace)

/-- The migrated NarInfos linked to no NAR file. -/
def narInfosWithoutFile (catalog : Catalog) : List (NarInfo Value) :=
  byId (·.id) (catalog.narInfos.filter fun row => row.isMigrated && catalog.lacksFile row)

/-! ## chunking -/

/-- Whether a NAR file waits to be cut into chunks. -/
def isWaiting (row : NarFile Value) : Bool :=
  row.totalChunks == .integer 0

/-- Whether a NAR file has been cut into chunks. -/
def isCut (row : NarFile Value) : Bool :=
  Value.lt (.integer 0) row.totalChunks

def waitingFiles (catalog : Catalog) : List (NarFile Value) :=
  byId (·.id) (catalog.narFiles.filter isWaiting)

/-- The NAR files at the ends of the links of a NarInfo, one for each link; a link that leads
nowhere has none at its end, and so has a NarInfo without links, once. -/
def linkedFiles (catalog : Catalog) (row : NarInfo Value) : List (Option (NarFile Value)) :=
  match catalog.fileLinks.filter (·.narInfo == row.id) with
  | [] => [none]
  | links => links.map fun link => catalog.narFileById? link.narFile

/-- The hashes of the migrated NarInfos with a link that leads to no NAR file, or to one that waits
to be cut into chunks; each once. -/
def hashesToChunk (catalog : Catalog) : List String :=
  Text.distinct
    ((catalog.narInfos.filter (·.isMigrated)).flatMap fun row =>
      ((catalog.linkedFiles row).filter (·.all isWaiting)).map fun _ => row.hash)

/-! ## compression -/

/-- Whether a column is set, and to none of some texts. -/
def isNoneOf (texts : List String) (column : Option String) : Bool :=
  column.any fun text => texts.all (text != ·)

/-- The NarInfos whose compression names a codec. -/
def compressedNarInfos (catalog : Catalog) : List (NarInfo Value) :=
  byId (·.id) (catalog.narInfos.filter fun row =>
    isNoneOf Compression.uncompressed row.details.compression)

/-- Whether a NAR file came in before another one; of two at the same time the lower id goes
first. -/
def isOlder (a b : NarFile Value) : Bool :=
  comesFirst (a.createdAt, a.id) (b.createdAt, b.id)

/-- The compressed NAR files that came in before a time, the oldest first. -/
def compressedFilesBefore (catalog : Catalog) (micros : Int) : List (NarFile Value) :=
  (catalog.narFiles.filter fun row =>
    isNoneOf Compression.uncompressed (some row.key.compression)
      && row.createdAt.lt (.integer micros)).mergeSort isOlder

/-! ## pages -/

def page {α : Type} (limit offset : Nat) (rows : List α) : List α :=
  (rows.drop offset).take limit

end NarIndex.Catalog
