import Mathlib.Algebra.Order.Ring.Int
import NarIndex.Catalog.Eviction
import NarIndex.Proofs.Result

/-!
# NarIndex.Proofs.Catalog.Total

Sums of sizes.  A sum of sizes is exact as long as it can be held, and overflows if it cannot; it
does not overflow on the way only to come back (`sum_sizes`).  A sum of any values fails in no other
way, and neither does what is built on sums (`affordable_eq_error`, `linkedSize_eq_error`).
-/

namespace NarIndex.Catalog

/-! ## sums of sizes -/

/-- Sizes as a column keeps them. -/
def keptSizes (sizes : List Nat) : List Value :=
  sizes.map fun size : Nat => .integer size

@[simp] theorem keptSizes_cons (size : Nat) (sizes : List Nat) :
    keptSizes (size :: sizes) = .integer size :: keptSizes sizes :=
  rfl

/-- Where each row has a size, the sizes are kept. -/
theorem exists_keptSizes {α : Type} {rows : List α} {column : α → Value}
    (h : ∀ row ∈ rows, ∃ size : Nat, column row = .integer size) :
    ∃ sizes, rows.map column = keptSizes sizes := by
  induction rows with
  | nil => exact ⟨[], rfl⟩
  | cons row rows ih =>
    obtain ⟨⟨size, hsize⟩, hrows⟩ := List.forall_mem_cons.1 h
    obtain ⟨sizes, hsizes⟩ := ih hrows
    exact ⟨size :: sizes, by rw [List.map_cons, hsize, hsizes, keptSizes_cons]⟩

namespace Total

/-- A sum of integers that has overflown does not come back. -/
theorem foldl_add_overflown (sizes : List Nat) (lost : Approximation) :
    ∃ lost', (keptSizes sizes).foldl add (overflown lost) = overflown lost' := by
  induction sizes generalizing lost with
  | nil => exact ⟨lost, rfl⟩
  | cons size sizes ih => exact ih (lost.addInt size)

/-- Sizes that can be added up are added up exactly. -/
theorem foldl_add_exact {sizes : List Nat} {start : Nat}
    (h : ((start + sizes.sum : Nat) : Int) ≤ maxInteger) :
    (keptSizes sizes).foldl add (exact start) = exact (start + sizes.sum : Nat) := by
  induction sizes generalizing start with
  | nil => rfl
  | cons size sizes ih =>
    rw [List.sum_cons, ← Nat.add_assoc] at h ⊢
    have hlow : minInteger ≤ (start : Int) + size := by
      rw [minInteger]
      omega
    have hhigh : (start : Int) + size ≤ maxInteger := by omega
    rw [keptSizes_cons, List.foldl_cons, add_integer hlow hhigh, ← Int.natCast_add, ih h]

/-- Sizes that are too many to be added up overflow. -/
theorem foldl_add_of_lt {sizes : List Nat} {start : Nat} (hstart : (start : Int) ≤ maxInteger)
    (h : maxInteger < ((start + sizes.sum : Nat) : Int)) :
    ∃ lost, (keptSizes sizes).foldl add (exact start) = overflown lost := by
  induction sizes generalizing start with
  | nil =>
    rw [List.sum_nil, Nat.add_zero] at h
    omega
  | cons size sizes ih =>
    rw [List.sum_cons, ← Nat.add_assoc] at h
    rw [keptSizes_cons, List.foldl_cons]
    by_cases hhigh : (start : Int) + size ≤ maxInteger
    · have hlow : minInteger ≤ (start : Int) + size := by
        rw [minInteger]
        omega
      rw [add_integer hlow hhigh, ← Int.natCast_add]
      exact ih hhigh h
    · have hfirst : add (exact start) (.integer size)
          = overflown ((Approximation.ofInt start).addInt size) :=
        if_neg fun hboth => hhigh hboth.2
      rw [hfirst]
      exact foldl_add_overflown sizes _

end Total

/-- The sum of sizes: none of no sizes, and else their sum if it can be held. -/
theorem sum_sizes (sizes : List Nat) :
    sum (keptSizes sizes)
      = if sizes = [] then .ok none
        else if (sizes.sum : Int) ≤ maxInteger then .ok (some (.integer sizes.sum))
        else .error .sumOverflowed := by
  cases sizes with
  | nil => rfl
  | cons size sizes =>
    rw [if_neg (List.cons_ne_nil size sizes)]
    change ((keptSizes (size :: sizes)).foldl Total.add (.exact (0 : Nat))).value = _
    split
    · next hle =>
      rw [← Nat.zero_add (List.sum _)] at hle
      rw [Total.foldl_add_exact hle, Nat.zero_add, Total.value_exact]
    · next hlt =>
      rw [← Nat.zero_add (List.sum _), Int.not_le] at hlt
      obtain ⟨lost, hlost⟩ := Total.foldl_add_of_lt (by decide) hlt
      rw [hlost]
      rfl

/-! ## how sums fail -/

/-- A total that is no value has overflowed. -/
theorem Total.value_eq_error {total : Total} {error : DriverError}
    (h : total.value = .error error) : error = .sumOverflowed := by
  cases total with
  | exact | rounded => contradiction
  | overflown => exact (Except.error.inj h).symm

/-- A sum fails for no other reason than that it overflows. -/
theorem sum_eq_error {values : List Value} {error : DriverError} (h : sum values = .error error) :
    error = .sumOverflowed := by
  cases values with
  | nil => contradiction
  | cons value values => exact Total.value_eq_error h

theorem runningSums_eq_error {total : Total} {values : List Value} {error : DriverError}
    (h : runningSums total values = .error error) : error = .sumOverflowed := by
  induction values generalizing total with
  | nil => contradiction
  | cons value values ih =>
    rcases bind_eq_error h with hvalue | ⟨first, -, h⟩
    · exact Total.value_eq_error hvalue
    · rcases bind_eq_error h with hrest | ⟨rest, -, h⟩
      · exact ih hrest
      · contradiction

/-- The sums that a budget is compared with can only overflow. -/
theorem affordable_eq_error {α : Type} {sizes : List Value} {budget : Int} {rows : List α}
    {error : DriverError} (h : affordable sizes budget rows = .error error) :
    error = .sumOverflowed := by
  rcases bind_eq_error h with hsums | ⟨sums, -, h⟩
  · exact runningSums_eq_error hsums
  · contradiction

/-- What a budget affords is among the rows. -/
theorem mem_of_affordable {α : Type} {sizes : List Value} {budget : Int} {rows some : List α}
    (h : affordable sizes budget rows = .ok some) {row : α} (hrow : row ∈ some) : row ∈ rows := by
  obtain ⟨sums, -, h⟩ := bind_eq_ok h
  cases h
  obtain ⟨⟨row, total⟩, hpair, rfl⟩ := List.mem_map.1 hrow
  exact (List.of_mem_zip (List.mem_filter.1 hpair).1).1

/-- The size of a NarInfo fails for no other reason either. -/
theorem linkedSize_eq_error {catalog : Catalog} {row : NarInfo Value} {error : DriverError}
    (h : catalog.linkedSize row = .error error) : error = .sumOverflowed := by
  rcases bind_eq_error h with hsum | ⟨linked, -, h⟩
  · exact sum_eq_error hsum
  · contradiction

end NarIndex.Catalog
