import NarIndex.Catalog.Chunk
import NarIndex.Catalog.NarFile
import NarIndex.Catalog.NarInfo
import NarIndex.Catalog.Setting

/-!
# NarIndex.Catalog

Everything the store keeps: four tables of rows with ids, and four tables that relate them.  A table
is a list in the order in which its rows came in, and its columns of integers hold `Value`s.
-/

namespace NarIndex

/-- A text that belongs to a NarInfo: a reference or a signature. -/
structure Attachment where
  narInfo : Int
  text : String
  deriving DecidableEq, Repr

/-- A NarInfo and a NAR file that backs it. -/
structure FileLink where
  narInfo : Int
  narFile : Int
  deriving DecidableEq, Repr

/-- A chunk and its place in a NAR file. -/
structure ChunkLink where
  narFile : Int
  chunk : Int
  index : Int
  deriving DecidableEq, Repr

/-- The contents of a store. -/
structure Catalog where
  narInfos : List (NarInfo Catalog.Value) := []
  narFiles : List (NarFile Catalog.Value) := []
  chunks : List (Chunk Catalog.Value) := []
  settings : List (Setting Catalog.Value) := []
  references : List Attachment := []
  signatures : List Attachment := []
  fileLinks : List FileLink := []
  chunkLinks : List ChunkLink := []
  deriving DecidableEq, Repr

namespace Catalog

/-- The id of the next row: one more than the highest id of the table. -/
def nextId (ids : List Int) : Int :=
  (ids.max?.getD 0) + 1

/-- Rows in the order of their ids. -/
def byId {α : Type} (id : α → Int) (rows : List α) : List α :=
  rows.mergeSort fun a b => id a ≤ id b

/-- Rows with those that meet a condition changed. -/
def mapWhere {α : Type} (p : α → Bool) (f : α → α) (rows : List α) : List α :=
  rows.map fun row => if p row then f row else row

def hasNarInfo (catalog : Catalog) (id : Int) : Bool :=
  catalog.narInfos.any (·.id == id)

def hasNarFile (catalog : Catalog) (id : Int) : Bool :=
  catalog.narFiles.any (·.id == id)

def hasChunk (catalog : Catalog) (id : Int) : Bool :=
  catalog.chunks.any (·.id == id)

end Catalog

end NarIndex
