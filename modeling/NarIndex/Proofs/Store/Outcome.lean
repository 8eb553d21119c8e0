import NarIndex.Store.Outcome

/-!
# NarIndex.Proofs.Store.Outcome

What becomes of statements that a call runs: under contention none gets through, and otherwise a
statement does what it does on the tables, and its error is named.  Nothing else about the context
matters (`Context.write_congr`, `Context.writeAll_congr`).
-/

namespace NarIndex.Store.Context

open Catalog (Write)

variable {α : Type} {context other : Context} {statement : Write α} {catalog after : Catalog}

/-- Under contention no statement gets through. -/
theorem write_of_contended (h : context.contended = true) (during : String)
    (statement : Write α) (catalog : Catalog) :
    context.write during statement catalog = (.error (.ofDriver during .locked), catalog) := by
  rw [write, if_pos h]

theorem write_ok {answer : α} (h : context.contended = false)
    (hrun : statement catalog = .ok (answer, after)) (during : String) :
    context.write during statement catalog = (.ok answer, after) := by
  rw [write, h, if_neg Bool.false_ne_true, hrun]

theorem write_error {error : DriverError} (h : context.contended = false)
    (hrun : statement catalog = .error error) (during : String) :
    context.write during statement catalog = (.error (.ofDriver during error), catalog) := by
  rw [write, h, if_neg Bool.false_ne_true, hrun]

/-- Of the context, only contention decides what becomes of a statement. -/
theorem write_congr (h : context.contended = other.contended) (during : String)
    (statement : Write α) (catalog : Catalog) :
    context.write during statement catalog = other.write during statement catalog := by
  rw [write, write, h]

/-- Of the context, only contention decides what becomes of several statements. -/
theorem writeAll_congr (h : context.contended = other.contended) (during : String)
    (statements : List (Write Unit)) (catalog : Catalog) :
    context.writeAll during statements catalog = other.writeAll during statements catalog := by
  induction statements generalizing catalog with
  | nil => rfl
  | cons statement statements ih =>
    rw [writeAll, writeAll, write_congr h]
    congr 1
    funext answer between
    exact ih between

end NarIndex.Store.Context
