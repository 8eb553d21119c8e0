import NarIndex.Catalog.Insert

/-!
# NarIndex.Catalog.Update

Statements that change columns of the rows they name, and yield how many rows those are.
-/

namespace NarIndex.Catalog

def updateNarInfos (p : NarInfo Value → Bool) (f : NarInfo Value → NarInfo Value) : Write Nat :=
  .always fun catalog =>
    (catalog.narInfos.countP p, { catalog with narInfos := mapWhere p f catalog.narInfos })

def updateNarFiles (p : NarFile Value → Bool) (f : NarFile Value → NarFile Value) : Write Nat :=
  .always fun catalog =>
    (catalog.narFiles.countP p, { catalog with narFiles := mapWhere p f catalog.narFiles })

/-! ## NarInfos -/

/-- Gives new details to the NarInfo of a hash. -/
def amendNarInfo (hash : String) (details : NarInfo.Details Int) (now : Int) : Write Nat :=
  updateNarInfos (·.hash == hash) (·.amended details.kept (.integer now))

/-- Gives new details to the NarInfo of a hash, and yields the row. -/
def amendNarInfoReturning (hash : String) (details : NarInfo.Details Int) (now : Int) :
    Write (Option (NarInfo Value)) :=
  .always fun catalog =>
    let amend (row : NarInfo Value) := row.amended details.kept (.integer now)
    ((catalog.narInfoByHash? hash).map amend,
      { catalog with narInfos := mapWhere (·.hash == hash) amend catalog.narInfos })

/-- Gives details to the NarInfo of a hash if it is a placeholder. -/
def fillPlaceholder (hash : String) (details : NarInfo.Details Int) (now : Int) : Write Nat :=
  updateNarInfos (fun row => row.hash == hash && !row.isMigrated)
    (·.amended details.kept (.integer now))

/-- Sets the file size that the NarInfo of a hash names. -/
def setNarInfoFileSize (hash : String) (size : Int) : Write Nat :=
  updateNarInfos (·.hash == hash) fun row =>
    { row with details := { row.details with fileSize := some (.integer size) } }

def touchNarInfo (hash : String) (now : Int) : Write Nat :=
  updateNarInfos (·.hash == hash) (·.touched (.integer now))

/-! ## NAR files -/

def touchNarFile (key : NarFile.Key) (now : Int) : Write Nat :=
  updateNarFiles (·.key == key) (·.touched (.integer now))

def setTotalChunks (id totalChunks : Int) : Write Nat :=
  updateNarFiles (·.id == id) fun row => { row with totalChunks := .integer totalChunks }

/-- Notes that cutting a NAR file into chunks has begun. -/
def setChunkingStarted (id now : Int) : Write Nat :=
  updateNarFiles (·.id == id) fun row => { row with chunkingStartedAt := some (.integer now) }

/-- Notes when a NAR file was last verified. -/
def setVerified (id micros : Int) : Write Nat :=
  updateNarFiles (·.id == id) fun row => { row with verifiedAt := some (.integer micros) }

end NarIndex.Catalog
