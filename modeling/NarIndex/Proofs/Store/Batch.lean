import NarIndex.Proofs.Catalog.Relation
import NarIndex.Proofs.Store.Contention

/-!
# NarIndex.Proofs.Store.Batch

Lists that are written in batches.  As long as all relations of a list can be added one after the
other, the batches do not show (`addInBatches_of_ok`).  Where one cannot, the call fails for that
reason, and the whole batches before it have been written: on a plain handle they are taken back,
within a transaction they stay (`addInBatches_of_error`).
-/

namespace NarIndex

/-! ## batches -/

namespace Sql

/-- How many of the first `n` items of a list are in batches that end among them. -/
def wholeBatches (n : Nat) : Nat :=
  n / batchRows * batchRows

theorem wholeBatches_le (n : Nat) : wholeBatches n ≤ n :=
  Nat.div_mul_le_self n batchRows

theorem lt_wholeBatches_add (n : Nat) : n < wholeBatches n + batchRows :=
  Nat.lt_div_mul_add (by decide)

theorem wholeBatches_of_lt {n : Nat} (h : n < batchRows) : wholeBatches n = 0 := by
  rw [wholeBatches, Nat.div_eq_of_lt h, Nat.zero_mul]

/-- What is in batches that end within a list fills these batches. -/
theorem batchRows_dvd_length_take {α : Type} (items : List α) :
    batchRows ∣ (items.take (wholeBatches items.length)).length := by
  rw [List.length_take_of_le (wholeBatches_le items.length)]
  exact Nat.dvd_mul_left batchRows _

/-- What is behind them does not fill a batch. -/
theorem length_drop_lt_batchRows {α : Type} (items : List α) :
    (items.drop (wholeBatches items.length)).length < batchRows := by
  have hle := wholeBatches_le items.length
  have hlt := lt_wholeBatches_add items.length
  rw [List.length_drop]
  omega

/-- A list is cut in the same way, whether whole batches come before it or not. -/
theorem batches_append {α : Type} {front : List α} (h : batchRows ∣ front.length)
    (back : List α) : batches (front ++ back) = batches front ++ batches back := by
  fun_induction batches front with
  | case1 => rfl
  | case2 item rest ih =>
    have hlength : batchRows ≤ (item :: rest).length := Nat.le_of_dvd (by simp) h
    have hrest : batchRows ∣ ((item :: rest).drop batchRows).length := by
      rw [List.length_drop]
      exact Nat.dvd_sub h (Nat.dvd_refl batchRows)
    rw [batches_of_ne_nil (by simp), List.take_append_of_le_length hlength,
      List.drop_append_of_le_length hlength, ih hrest, List.cons_append]

/-- An item is in the first batch if fewer items come before it than a batch has. -/
theorem take_batchRows {α : Type} {front : List α} (h : front.length < batchRows) (item : α)
    (rest : List α) :
    ∃ more, (front ++ item :: rest).take batchRows = front ++ item :: more := by
  obtain ⟨n, hn⟩ : ∃ n, batchRows - front.length = n + 1 :=
    Nat.exists_eq_add_one.2 (Nat.sub_pos_of_lt h)
  refine ⟨rest.take n, ?_⟩
  rw [List.take_append, List.take_of_length_le (Nat.le_of_lt h), hn, List.take_succ_cons]

end Sql

namespace Store

open Catalog (Write addEach addAll)
open Sql (batches batchRows wholeBatches)

variable {α : Type} {context : Context} {add : α → Catalog → Except DriverError Catalog}
  {catalog between after : Catalog}

/-! ## statements one after the other -/

/-- Statements run in two parts as they do in one. -/
theorem Context.writeAll_append (context : Context) (during : String)
    (statements more : List (Write Unit)) (catalog : Catalog) :
    context.writeAll during (statements ++ more) catalog
      = Outcome.andThen (context.writeAll during statements catalog) fun _ between =>
          context.writeAll during more between := by
  induction statements generalizing catalog with
  | nil => rfl
  | cons statement statements ih =>
    rw [List.cons_append, writeAll, writeAll]
    obtain ⟨result, between⟩ := context.write during statement catalog
    cases result with
    | ok answer => exact ih between
    | error error => rfl

section free

variable (free : context.contended = false)
include free

/-- Statements that add groups of relations add all of them, if they can be added one after the
other. -/
theorem Context.writeAll_addAll {groups : List (List α)}
    (h : addEach add groups.flatten catalog = .ok after) (during : String) :
    context.writeAll during (groups.map (addAll add)) catalog = (.ok (), after) := by
  induction groups generalizing catalog with
  | nil =>
    cases h
    rfl
  | cons group groups ih =>
    rw [List.flatten_cons] at h
    obtain ⟨between, hgroup, hgroups⟩ := Catalog.addEach_of_append h
    rw [List.map_cons, writeAll, write_ok free (Catalog.addAll_of_ok hgroup)]
    exact ih hgroups

/-- Statements that add the batches of a list stop at the batch with the first relation that cannot
be added.  The whole batches before it have been written by then. -/
theorem Context.writeAll_batches_of_error {before : List α} {link : α} {error : DriverError}
    (hbefore : addEach add before catalog = .ok between) (hfails : add link between = .error error)
    (rest : List α) (during : String) :
    ∃ kept, addEach add (before.take (wholeBatches before.length)) catalog = .ok kept ∧
      context.writeAll during ((batches (before ++ link :: rest)).map (addAll add)) catalog
        = (.error (.ofDriver during error), kept) := by
  obtain ⟨front, back, hfront, hwhole, hback, rfl⟩ : ∃ front back,
      before.take (wholeBatches before.length) = front ∧ batchRows ∣ front.length ∧
        back.length < batchRows ∧ before = front ++ back :=
    ⟨_, _, rfl, Sql.batchRows_dvd_length_take before, Sql.length_drop_lt_batchRows before,
      (List.take_append_drop _ before).symm⟩
  rw [hfront]
  obtain ⟨kept, hkept, hbehind⟩ := Catalog.addEach_of_append hbefore
  refine ⟨kept, hkept, ?_⟩
  rw [← Sql.flatten_batches front] at hkept
  -- the batch with the failing relation
  obtain ⟨more, hbatch⟩ := Sql.take_batchRows hback link rest
  have hstops : addEach add (back ++ link :: more) kept = .error error := by
    rw [Catalog.addEach_append_of_ok hbehind, Catalog.addEach_cons_of_error hfails]
  rw [List.append_assoc, Sql.batches_append hwhole, List.map_append, writeAll_append,
    writeAll_addAll free hkept, Sql.batches_of_ne_nil (by simp), hbatch, List.map_cons]
  simp only [Outcome.andThen, writeAll, write_error free (Catalog.addAll_of_error hstops)]

end free

/-! ## lists -/

/-- Adds a relation, unless another connection has the write lock. -/
def guarded (contended : Bool) (add : α → Catalog → Except DriverError Catalog) :
    α → Catalog → Except DriverError Catalog :=
  fun link catalog => if contended then .error .locked else add link catalog

@[simp] theorem guarded_false : guarded false add = add := by
  funext link catalog
  rw [guarded, if_neg Bool.false_ne_true]

@[simp] theorem guarded_true (link : α) : guarded true add link catalog = .error .locked :=
  rfl

/-- Under the lock no relation can be added. -/
theorem eq_nil_of_addEach_guarded {links : List α}
    (h : addEach (guarded true add) links catalog = .ok after) : links = [] := by
  cases links with
  | nil => rfl
  | cons link links =>
    rw [Catalog.addEach_cons_of_error (guarded_true link)] at h
    contradiction

/-- Relations that can be added have met no lock. -/
theorem addEach_of_guarded {contended : Bool} {links : List α}
    (h : addEach (guarded contended add) links catalog = .ok after) :
    addEach add links catalog = .ok after := by
  cases contended with
  | true =>
    obtain rfl := eq_nil_of_addEach_guarded h
    exact h
  | false => rwa [guarded_false] at h

/-- Relations that can be added one after the other are added, whatever their number. -/
theorem addInBatches_of_ok (context : Context) {links : List α}
    (h : addEach (guarded context.contended add) links catalog = .ok after) (during : String) :
    addInBatches context during add links catalog = (.ok (), after) := by
  cases hlock : context.contended with
  | true =>
    rw [hlock] at h
    obtain rfl := eq_nil_of_addEach_guarded h
    cases h
    exact addInBatches_nil context during add catalog
  | false =>
    rw [hlock, guarded_false, ← Sql.flatten_batches links] at h
    rw [addInBatches, Context.atomically, Context.writeAll_addAll hlock h]

/-- A relation that cannot be added makes the call fail.  The whole batches before it have been
written by then; they stay if the call is part of a transaction. -/
theorem addInBatches_of_error (context : Context) {before : List α} {link : α}
    {error : DriverError}
    (hbefore : addEach (guarded context.contended add) before catalog = .ok between)
    (hfails : guarded context.contended add link between = .error error) (rest : List α)
    (during : String) :
    ∃ kept,
      addEach (guarded context.contended add) (before.take (wholeBatches before.length)) catalog
          = .ok kept ∧
      addInBatches context during add (before ++ link :: rest) catalog
        = (.error (.ofDriver during error), if context.joined then kept else catalog) := by
  cases hlock : context.contended with
  | true =>
    rw [hlock] at hbefore hfails
    obtain rfl := eq_nil_of_addEach_guarded hbefore
    cases hfails
    refine ⟨catalog, by simp, ?_⟩
    rw [ite_self]
    exact addInBatches_of_contended hlock (List.cons_ne_nil link rest) during add
  | false =>
    rw [hlock, guarded_false] at hbefore hfails
    rw [guarded_false]
    obtain ⟨kept, hkept, hwrites⟩ :=
      Context.writeAll_batches_of_error hlock hbefore hfails rest during
    refine ⟨kept, hkept, ?_⟩
    rw [addInBatches, Context.atomically, hwrites]

/-- A single relation is one statement, in a batch of its own. -/
theorem addInBatches_singleton (context : Context) (during : String)
    (add : α → Catalog → Except DriverError Catalog) (link : α) (catalog : Catalog) :
    addInBatches context during add [link] catalog
      = context.write during (addAll add [link]) catalog := by
  have hone : batches [link] = [[link]] := by simp [Sql.batches_of_ne_nil, batchRows]
  rw [addInBatches, hone, List.map_singleton, Context.atomically, Context.writeAll]
  cases hlock : context.contended with
  | true =>
    rw [Context.write_of_contended hlock]
    simp only [Outcome.andThen, ite_self]
  | false =>
    cases hrun : addAll add [link] catalog with
    | ok result => rw [Context.write_ok hlock hrun, Outcome.andThen, Context.writeAll]
    | error error =>
      rw [Context.write_error hlock hrun]
      simp only [Outcome.andThen, ite_self]

/-- A single relation that can be added is added. -/
theorem Context.write_addAll_of_ok {link : α}
    (h : guarded context.contended add link catalog = .ok after) (during : String) :
    context.write during (addAll add [link]) catalog = (.ok (), after) := by
  rw [← addInBatches_singleton]
  exact addInBatches_of_ok context (Catalog.addEach_cons_of_ok h []) during

/-- A single relation that cannot be added makes the call fail, and nothing changes. -/
theorem Context.write_addAll_of_error {link : α} {error : DriverError}
    (h : guarded context.contended add link catalog = .error error) (during : String) :
    context.write during (addAll add [link]) catalog
      = (.error (.ofDriver during error), catalog) := by
  obtain ⟨kept, hkept, hbatches⟩ :=
    addInBatches_of_error context (Catalog.addEach_nil _ catalog) h [] during
  have hsame : kept = catalog := by simpa using hkept.symm
  rw [hsame, ite_self] at hbatches
  rw [← addInBatches_singleton]
  exact hbatches

end Store

end NarIndex
