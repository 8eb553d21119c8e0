import NarIndex.Catalog.Lookup
import NarIndex.Catalog.Total

/-!
# NarIndex.Catalog.Eviction

Sizes added up, and the rows that may go first when room is needed: those used longest ago, as far
as their sizes stay within a budget.
-/

namespace NarIndex.Catalog

/-! ## sizes -/

def totalFileSize (catalog : Catalog) : Except DriverError Value := do
  return (← sum ((byId (·.id) catalog.narFiles).map (·.fileSize))).getD (.integer 0)

def totalChunkSize (catalog : Catalog) : Except DriverError Value := do
  return (← sum ((byId (·.id) catalog.chunks).map (·.size))).getD (.integer 0)

/-- The size of a NarInfo: the sum over the NAR files it is linked to, or, if there is none, the
size it names itself. -/
def linkedSize (catalog : Catalog) (row : NarInfo Value) : Except DriverError Value := do
  let linked ← sum ((catalog.filesOf row.id).map (·.fileSize))
  return (linked <|> row.details.fileSize).getD (.integer 0)

/-! ## least used -/

/-- Rows with the one used longest ago first; of two used at the same time the lower id goes
first. -/
def byUse {α : Type} (lastAccessedAt : α → Value) (id : α → Int) (rows : List α) : List α :=
  rows.mergeSort fun a b => comesFirst (lastAccessedAt a, id a) (lastAccessedAt b, id b)

/-- The rows up to which the sum of the sizes, given row by row, stays within a budget. -/
def affordable {α : Type} (sizes : List Value) (budget : Int) (rows : List α) :
    Except DriverError (List α) := do
  let sums ← runningSums (.exact 0) sizes
  return ((rows.zip sums).filter (·.2.any (·.le (.integer budget)))).map (·.1)

/-- The NAR files used longest ago, as far as a budget goes. -/
def leastUsedFiles (catalog : Catalog) (budget : Int) :
    Except DriverError (List (NarFile Value)) :=
  let rows := byUse (·.lastAccessedAt) (·.id) catalog.narFiles
  affordable (rows.map (·.fileSize)) budget rows

/-- The NarInfos used longest ago, as far as a budget goes. -/
def leastUsedNarInfos (catalog : Catalog) (budget : Int) :
    Except DriverError (List (NarInfo Value)) := do
  let rows := byUse (·.lastAccessedAt) (·.id) catalog.narInfos
  affordable (← rows.mapM catalog.linkedSize) budget rows

end NarIndex.Catalog
