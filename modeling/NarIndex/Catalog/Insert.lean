import NarIndex.Catalog.Lookup

/-!
# NarIndex.Catalog.Insert

Statements that bring rows in.  A statement either fails and leaves the catalog alone, or yields its
result with the changed catalog.  An insert refuses a row whose natural key is taken; a merge takes
the row that is there and gives back how it is afterwards.
-/

namespace NarIndex.Catalog

/-- A statement that writes. -/
abbrev Write (α : Type) := Catalog → Except DriverError (α × Catalog)

/-- A statement that cannot fail. -/
def Write.always {α : Type} (f : Catalog → α × Catalog) : Write α :=
  fun catalog => .ok (f catalog)

/-! ## NarInfos -/

/-- A new NarInfo, and the catalog with it at the end. -/
def addNarInfo (hash : String) (details : NarInfo.Details Int) (now : Int) (catalog : Catalog) :
    NarInfo Value × Catalog :=
  let id := nextId (catalog.narInfos.map (·.id))
  let row := NarInfo.fresh id hash details.kept (.integer now)
  (row, { catalog with narInfos := catalog.narInfos ++ [row] })

/-- Inserts a NarInfo and yields its id. -/
def insertNarInfo (hash : String) (details : NarInfo.Details Int) (now : Int) : Write Int :=
  fun catalog =>
    if catalog.narInfos.any (·.hash == hash) then .error (.uniqueViolated "narinfos.hash")
    else
      let (row, catalog) := addNarInfo hash details now catalog
      .ok (row.id, catalog)

/-- Merges details into the NarInfo of a hash, and yields the row. -/
def mergeNarInfo (hash : String) (details : NarInfo.Details Int) (now : Int) :
    Write (NarInfo Value) :=
  .always fun catalog =>
    match catalog.narInfoByHash? hash with
    | none => addNarInfo hash details now catalog
    | some row =>
      let merge (row : NarInfo Value) := row.merged details.kept (.integer now)
      (merge row,
        { catalog with narInfos := mapWhere (·.hash == hash) merge catalog.narInfos })

/-! ## NAR files -/

/-- A new NAR file, and the catalog with it at the end. -/
def addNarFile (key : NarFile.Key) (fileSize totalChunks now : Int) (catalog : Catalog) :
    NarFile Value × Catalog :=
  let id := nextId (catalog.narFiles.map (·.id))
  let row := NarFile.fresh id key (.integer fileSize) (.integer totalChunks) (.integer now)
  (row, { catalog with narFiles := catalog.narFiles ++ [row] })

/-- Inserts a NAR file and yields its id. -/
def insertNarFile (key : NarFile.Key) (fileSize totalChunks now : Int) : Write Int :=
  fun catalog =>
    if catalog.narFiles.any (·.key == key) then
      .error (.uniqueViolated "nar_files.hash, nar_files.compression, nar_files.query")
    else
      let (row, catalog) := addNarFile key fileSize totalChunks now catalog
      .ok (row.id, catalog)

/-- Yields the NAR file of a key, which comes in if it is not there. -/
def mergeNarFile (key : NarFile.Key) (fileSize totalChunks now : Int) : Write (NarFile Value) :=
  .always fun catalog =>
    match catalog.narFileByKey? key with
    | none => addNarFile key fileSize totalChunks now catalog
    | some row => (row, catalog)

/-! ## chunks -/

/-- A new chunk, and the catalog with it at the end. -/
def addChunk (hash : String) (size now : Int) (catalog : Catalog) : Chunk Value × Catalog :=
  let id := nextId (catalog.chunks.map (·.id))
  let row := Chunk.fresh id hash (.integer size) (.integer now)
  (row, { catalog with chunks := catalog.chunks ++ [row] })

/-- Inserts a chunk and yields its id. -/
def insertChunk (hash : String) (size now : Int) : Write Int :=
  fun catalog =>
    if catalog.chunks.any (·.hash == hash) then .error (.uniqueViolated "chunks.hash")
    else
      let (row, catalog) := addChunk hash size now catalog
      .ok (row.id, catalog)

/-- Yields the chunk of a hash, which comes in if it is not there. -/
def mergeChunk (hash : String) (size now : Int) : Write (Chunk Value) :=
  .always fun catalog =>
    match catalog.chunkByHash? hash with
    | none => addChunk hash size now catalog
    | some row => (row, catalog)

/-! ## settings -/

def addSetting (key value : String) (now : Int) (catalog : Catalog) : Catalog :=
  let row := Setting.fresh (nextId (catalog.settings.map (·.id))) key value (.integer now)
  { catalog with settings := catalog.settings ++ [row] }

/-- Inserts a setting. -/
def insertSetting (key value : String) (now : Int) : Write Unit :=
  fun catalog =>
    if catalog.settings.any (·.key == key) then .error (.uniqueViolated "config.key")
    else .ok ((), catalog.addSetting key value now)

/-- Overwrites the value of a key, which comes in if it is not there. -/
def mergeSetting (key value : String) (now : Int) : Write Unit :=
  .always fun catalog =>
    if catalog.settings.any (·.key == key) then
      ((), { catalog with
        settings :=
          mapWhere (·.key == key) (·.overwritten value (.integer now)) catalog.settings })
    else ((), catalog.addSetting key value now)

end NarIndex.Catalog
