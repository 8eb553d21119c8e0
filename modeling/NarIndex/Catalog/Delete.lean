import NarIndex.Catalog.Insert
import NarIndex.Catalog.Listing

/-!
# NarIndex.Catalog.Delete

Statements that delete rows, with everything that leads from or to them, and yield how many rows of
their own table those are.
-/

namespace NarIndex.Catalog

/-- Whether an id belongs to none of the rows that go. -/
def survives {α : Type} (id : α → Int) (gone : List α) (owner : Int) : Bool :=
  !gone.any fun row => id row == owner

/-- Deletes the NarInfos that meet a condition, with their references, signatures and links. -/
def deleteNarInfos (p : Catalog → NarInfo Value → Bool) : Write Nat :=
  .always fun catalog =>
    let gone := catalog.narInfos.filter (p catalog)
    let stays := survives (·.id) gone
    (gone.length,
      { catalog with
        narInfos := catalog.narInfos.filter (!p catalog ·)
        references := catalog.references.filter (stays ·.narInfo)
        signatures := catalog.signatures.filter (stays ·.narInfo)
        fileLinks := catalog.fileLinks.filter (stays ·.narInfo) })

/-- Deletes the NAR files that meet a condition, with their links to NarInfos and to chunks. -/
def deleteNarFiles (p : Catalog → NarFile Value → Bool) : Write Nat :=
  .always fun catalog =>
    let gone := catalog.narFiles.filter (p catalog)
    let stays := survives (·.id) gone
    (gone.length,
      { catalog with
        narFiles := catalog.narFiles.filter (!p catalog ·)
        fileLinks := catalog.fileLinks.filter (stays ·.narFile)
        chunkLinks := catalog.chunkLinks.filter (stays ·.narFile) })

/-- Deletes the chunks that meet a condition, with their links. -/
def deleteChunks (p : Catalog → Chunk Value → Bool) : Write Nat :=
  .always fun catalog =>
    let gone := catalog.chunks.filter (p catalog)
    let stays := survives (·.id) gone
    (gone.length,
      { catalog with
        chunks := catalog.chunks.filter (!p catalog ·)
        chunkLinks := catalog.chunkLinks.filter (stays ·.chunk) })

def deleteOrphanedNarInfos : Write Nat :=
  deleteNarInfos lacksFile

def deleteOrphanedFiles : Write Nat :=
  deleteNarFiles lacksNarInfo

def deleteOrphanedChunks : Write Nat :=
  deleteChunks lacksPlace

end NarIndex.Catalog
