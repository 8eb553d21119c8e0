import NarIndex.Catalog
import NarIndex.Text.Order

/-!
# NarIndex.Catalog.Lookup

Finding the row that an id, a natural key or a relation leads to.  Where a relation leads to several
files, the one with the lowest id is meant.
-/

namespace NarIndex.Catalog

/-! ## by key -/

def narInfoByHash? (catalog : Catalog) (hash : String) : Option (NarInfo Value) :=
  catalog.narInfos.find? (·.hash == hash)

def narInfoById? (catalog : Catalog) (id : Int) : Option (NarInfo Value) :=
  catalog.narInfos.find? (·.id == id)

def narFileByKey? (catalog : Catalog) (key : NarFile.Key) : Option (NarFile Value) :=
  catalog.narFiles.find? (·.key == key)

def narFileById? (catalog : Catalog) (id : Int) : Option (NarFile Value) :=
  catalog.narFiles.find? (·.id == id)

def chunkByHash? (catalog : Catalog) (hash : String) : Option (Chunk Value) :=
  catalog.chunks.find? (·.hash == hash)

def chunkById? (catalog : Catalog) (id : Int) : Option (Chunk Value) :=
  catalog.chunks.find? (·.id == id)

def settingByKey? (catalog : Catalog) (key : String) : Option (Setting Value) :=
  catalog.settings.find? (·.key == key)

def settingById? (catalog : Catalog) (id : Int) : Option (Setting Value) :=
  catalog.settings.find? (·.id == id)

/-! ## by relation -/

/-- The forms in which the NAR of a hash is stored. -/
def formsOf (catalog : Catalog) (hash : String) : List (NarFile Value) :=
  byId (·.id) (catalog.narFiles.filter (·.key.hash == hash))

/-- The first form in which the NAR of a hash is stored. -/
def narFileByHash? (catalog : Catalog) (hash : String) : Option (NarFile Value) :=
  (catalog.formsOf hash).head?

def isLinked (catalog : Catalog) (narInfo narFile : Int) : Bool :=
  catalog.fileLinks.contains ⟨narInfo, narFile⟩

/-- The NAR files that a NarInfo is linked to. -/
def filesOf (catalog : Catalog) (narInfo : Int) : List (NarFile Value) :=
  byId (·.id) (catalog.narFiles.filter fun file => catalog.isLinked narInfo file.id)

/-- The NAR file that backs a NarInfo. -/
def narFileOfNarInfo? (catalog : Catalog) (narInfo : Int) : Option (NarFile Value) :=
  (catalog.filesOf narInfo).head?

/-- The places of a NAR file that hold a chunk, in ascending order. -/
def placesOf (catalog : Catalog) (narFile : Int) : List ChunkLink :=
  (catalog.chunkLinks.filter (·.narFile == narFile)).mergeSort fun a b => a.index ≤ b.index

/-- The chunks of a NAR file in the order of their places. -/
def chunksOf (catalog : Catalog) (narFile : Int) : List (Chunk Value) :=
  (catalog.placesOf narFile).filterMap fun link => catalog.chunkById? link.chunk

/-- The link at a place of a NAR file. -/
def linkAt? (catalog : Catalog) (narFile index : Int) : Option ChunkLink :=
  catalog.chunkLinks.find? fun link => link.narFile == narFile && link.index == index

/-- The chunk at a place of a NAR file. -/
def chunkAt? (catalog : Catalog) (narFile index : Int) : Option (Chunk Value) :=
  (catalog.linkAt? narFile index).bind fun link => catalog.chunkById? link.chunk

/-- The texts that belong to a NarInfo, in ascending order. -/
def textsOf (attachments : List Attachment) (narInfo : Int) : List String :=
  Text.sorted ((attachments.filter (·.narInfo == narInfo)).map (·.text))

end NarIndex.Catalog
