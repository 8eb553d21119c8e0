import NarIndex.Catalog
import NarIndex.Error
import NarIndex.Sql.Dialect

/-!
# NarIndex.Store.Answer

What the calls of the store answer.
-/

namespace NarIndex.Store

/-- The answer of a call that succeeds. -/
inductive Answer where
  | narInfo (row : NarInfo Int)
  | narInfos (rows : List (NarInfo Int))
  | narFile (row : NarFile Int)
  | narFiles (rows : List (NarFile Int))
  | chunk (row : Chunk Int)
  | chunks (rows : List (Chunk Int))
  | setting (row : Setting Int)
  | texts (texts : List String)
  | count (n : Nat)
  | flag (value : Bool)
  | kind (dialect : Sql.Dialect)
  | done
  deriving DecidableEq, Repr

/-- A row that was looked for.  `entity` and `key` say what was looked for, if it is not there. -/
def found {ρ : Type → Type} [Catalog.Readable ρ] (entity key : String) :
    Option (ρ Catalog.Value) → Except StoreError (ρ Int)
  | none => .error (.notFound entity key)
  | some row => (Catalog.read row).mapError .ofQuery

/-- Rows that were asked for. -/
def listed {ρ : Type → Type} [Catalog.Readable ρ] (rows : List (ρ Catalog.Value)) :
    Except StoreError (List (ρ Int)) :=
  (Catalog.readAll rows).mapError .ofQuery

/-- A sum that was asked for, which has to be an integer. -/
def summed (total : Except DriverError Catalog.Value) : Except StoreError Int :=
  (do (← total).toInt "0" .integer).mapError .ofQuery

/-- A sum that has to be a size. -/
def sized (what : String) (total : Int) : Except StoreError Nat :=
  if 0 ≤ total then .ok total.toNat
  else .error (.internal (what ++ " returned negative value " ++ toString total))

end NarIndex.Store
