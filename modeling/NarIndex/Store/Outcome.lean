import NarIndex.Catalog.Insert
import NarIndex.Error
import NarIndex.Sql.Dialect

/-!
# NarIndex.Store.Outcome

What a call of the store meets, and what it leaves: an answer, and the catalog behind it.  A call
that fails after some of its statements have run leaves what those did; `Context.atomically` takes
it back.
-/

namespace NarIndex.Store

/-- What a call meets. -/
structure Context where
  dialect : Sql.Dialect
  now : Time.Timestamp
  /-- Whether another connection holds the write lock. -/
  contended : Bool := false
  /-- Whether the call is part of an open transaction. -/
  joined : Bool := false

/-- What a call leaves. -/
abbrev Outcome (α : Type) := Except StoreError α × Catalog

/-- An outcome with its answer changed. -/
def Outcome.map {α β : Type} (f : α → β) (outcome : Outcome α) : Outcome β :=
  (outcome.1.map f, outcome.2)

/-- A call that goes on with the answer of another one, unless that failed. -/
def Outcome.andThen {α β : Type} (outcome : Outcome α) (next : α → Catalog → Outcome β) :
    Outcome β :=
  match outcome with
  | (.ok answer, catalog) => next answer catalog
  | (.error error, catalog) => (.error error, catalog)

namespace Context

variable {α : Type}

/-- Runs a statement that writes, for the operation that its errors name.  Under contention no such
statement gets through. -/
def write (context : Context) (during : String) (statement : Catalog.Write α) (catalog : Catalog) :
    Outcome α :=
  if context.contended then (.error (.ofDriver during .locked), catalog)
  else match statement catalog with
    | .ok (answer, catalog) => (.ok answer, catalog)
    | .error error => (.error (.ofDriver during error), catalog)

/-- Runs statements one after the other, up to the first that fails. -/
def writeAll (context : Context) (during : String) :
    List (Catalog.Write Unit) → Catalog → Outcome Unit
  | [], catalog => (.ok (), catalog)
  | statement :: statements, catalog =>
    Outcome.andThen (context.write during statement catalog) fun _ catalog =>
      context.writeAll during statements catalog

/-- Takes back what a call did before it failed.  Within a transaction that is left to whoever has
opened it. -/
def atomically (context : Context) (call : Catalog → Outcome α) (catalog : Catalog) : Outcome α :=
  match call catalog with
  | (.ok answer, done) => (.ok answer, done)
  | (.error error, done) => (.error error, if context.joined then done else catalog)

end Context

/-! ## sizes -/

/-- A size as the store keeps it. -/
def storable (what : String) (size : UInt64) : Except StoreError Int :=
  if (size.toNat : Int) ≤ Catalog.maxInteger then .ok size.toNat
  else .error (.internal (what ++ " " ++ toString size.toNat ++ " exceeds the storable range"))

/-- A budget, limit or offset as the store uses it: one that is too large is the largest. -/
def clamped (n : UInt64) : Nat :=
  min n.toNat Catalog.maxInteger.toNat

end NarIndex.Store
