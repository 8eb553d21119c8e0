import Mathlib.Algebra.BigOperators.Group.List.Basic
import Mathlib.Algebra.Order.BigOperators.Group.List
import NarIndex.Proofs.Catalog.Total

/-!
# NarIndex.Proofs.Catalog.Affordable

Which rows a budget affords.  Rows are put in the order of their use (`InOrderOfUse`), and of those
the budget affords the longest prefix whose sizes stay within it together (`LongestAffordable`).  A
statement filters the rows by their running sums instead.  As sizes are not negative, the sums
ascend, so that the rows it keeps are a prefix (`affordable_of_le`); and it fails just when the sum
of all sizes cannot be held (`affordable_of_lt`), for this is the largest of the running sums.
-/

namespace NarIndex.Catalog

variable {α β : Type}

/-! ## rows in the order of their use -/

/-- Rows put in the order of their use, the one used longest ago first; of two used at the same
time the lower id goes first. -/
structure InOrderOfUse (lastUse id : α → Int) (rows ordered : List α) : Prop where
  perm : ordered.Perm rows
  ascend : ordered.Pairwise fun a b => lastUse a < lastUse b ∨ lastUse a = lastUse b ∧ id a < id b

@[simp] theorem comesFirst_integer (a b i j : Int) :
    comesFirst (.integer a, i) (.integer b, j) = decide (a < b ∨ a = b ∧ i ≤ j) := by
  rw [Bool.eq_iff_iff]
  simp only [comesFirst, Value.le_integer, Bool.and_eq_true, Bool.or_eq_true, Bool.not_eq_true',
    decide_eq_true_eq, decide_eq_false_iff_not]
  omega

/-- Rows with different ids are put in the order of their use. -/
theorem inOrderOfUse_byUse {lastUse id : α → Int} {rows : List α} (h : (rows.map id).Nodup) :
    InOrderOfUse lastUse id rows (byUse (fun row => .integer (lastUse row)) id rows) where
  perm := List.mergeSort_perm _ _
  ascend := by
    have hsorted : (byUse (fun row => .integer (lastUse row)) id rows).Pairwise fun a b =>
        comesFirst (.integer (lastUse a), id a) (.integer (lastUse b), id b) := by
      apply List.pairwise_mergeSort
      · intro a b c
        simp only [comesFirst_integer, decide_eq_true_eq]
        omega
      · intro a b
        simp only [comesFirst_integer, Bool.or_eq_true, decide_eq_true_eq]
        omega
    have hids : ((byUse (fun row => .integer (lastUse row)) id rows).map id).Nodup :=
      ((List.mergeSort_perm _ _).map id).nodup_iff.2 h
    -- the order is strict, as no two rows have the same id
    refine (hsorted.and (List.pairwise_map.1 hids)).imp fun hpair => ?_
    simp only [comesFirst_integer, decide_eq_true_eq] at hpair
    omega

/-- There is one such order. -/
theorem InOrderOfUse.unique {lastUse id : α → Int} {rows ordered other : List α}
    (h : InOrderOfUse lastUse id rows ordered) (hother : InOrderOfUse lastUse id rows other) :
    ordered = other := by
  refine List.Perm.eq_of_pairwise ?_ h.ascend hother.ascend (h.perm.trans hother.perm.symm)
  omega

/-- A row used before all others is the first. -/
theorem InOrderOfUse.eq_cons {lastUse id : α → Int} {rows ordered : List α}
    (h : InOrderOfUse lastUse id rows ordered) {row : α} (hrow : row ∈ rows)
    (first : ∀ other ∈ rows, other ≠ row → lastUse row < lastUse other) :
    ∃ rest, ordered = row :: rest ∧ ∀ other ∈ rest, other ∈ rows ∧ other ≠ row := by
  obtain ⟨front, rest, rfl⟩ := List.append_of_mem (h.perm.mem_iff.2 hrow)
  have hascend := h.ascend
  rw [List.pairwise_append, List.pairwise_cons] at hascend
  obtain ⟨-, ⟨hrest, -⟩, hfront⟩ := hascend
  have hmem : ∀ other ∈ front ++ row :: rest, other ∈ rows := fun _ => h.perm.mem_iff.1
  have hnone : front = [] := by
    refine List.eq_nil_iff_forall_not_mem.2 fun other hother => ?_
    have hbefore := hfront other hother row List.mem_cons_self
    have hne : other ≠ row := by
      rintro rfl
      omega
    have hafter := first other (hmem other (List.mem_append_left _ hother)) hne
    omega
  refine ⟨rest, by rw [hnone, List.nil_append], fun other hother => ⟨hmem other ?_, ?_⟩⟩
  · exact List.mem_append_right _ (List.mem_cons_of_mem row hother)
  · rintro rfl
    have hself := hrest other hother
    omega

/-- It does not matter whether rows are put in order before they are changed or after. -/
theorem byUse_map (f : α → β) (lastUse : β → Value) (id : β → Int) (rows : List α) :
    byUse lastUse id (rows.map f)
      = (byUse (fun row => lastUse (f row)) (fun row => id (f row)) rows).map f := by
  refine Eq.symm (List.map_mergeSort ?_)
  intro a _ b _
  rfl

/-! ## the longest prefix that a budget affords -/

/-- The longest prefix of some rows whose sizes stay within a budget together. -/
structure LongestAffordable (size : α → Int) (budget : Int) (rows chosen : List α) : Prop where
  begins : chosen <+: rows
  within : (chosen.map size).sum ≤ budget
  longest : ∀ other, other <+: rows → (other.map size).sum ≤ budget →
    other.length ≤ chosen.length

section sizes

variable {size : α → Int} {rows : List α}

/-- Sizes add up to a size. -/
theorem sum_map_nonneg (nonneg : ∀ row ∈ rows, 0 ≤ size row) : 0 ≤ (rows.map size).sum :=
  List.sum_nonneg (List.forall_mem_map.2 nonneg)

/-- The sizes of some of the rows do not add up to more than those of all. -/
theorem sum_map_le_of_sublist (nonneg : ∀ row ∈ rows, 0 ≤ size row) {some : List α}
    (h : some.Sublist rows) : (some.map size).sum ≤ (rows.map size).sum :=
  (h.map size).sum_le_sum (List.forall_mem_map.2 nonneg)

namespace LongestAffordable

variable {budget : Int} {row : α} {chosen : List α}

/-- There is one such prefix. -/
theorem unique {other : List α} (h : LongestAffordable size budget rows chosen)
    (hother : LongestAffordable size budget rows other) : chosen = other := by
  have hle := hother.longest chosen h.begins h.within
  have hge := h.longest other hother.begins hother.within
  exact (List.prefix_of_prefix_length_le h.begins hother.begins hle).eq_of_length
    (Nat.le_antisymm hle hge)

theorem nil (h : 0 ≤ budget) : LongestAffordable size budget [] [] where
  begins := List.prefix_refl []
  within := h
  longest other hother _ := by rw [List.prefix_nil.1 hother]

/-- If the first row is affordable, what is left of the budget goes to the others. -/
theorem cons (h : LongestAffordable size (budget - size row) rows chosen) :
    LongestAffordable size budget (row :: rows) (row :: chosen) where
  begins := (List.prefix_cons_inj row).2 h.begins
  within := by
    have hwithin := h.within
    rw [List.map_cons, List.sum_cons]
    omega
  longest other hother hsum := by
    cases other with
    | nil => exact Nat.zero_le _
    | cons first other =>
      obtain ⟨rfl, hrest⟩ := List.cons_prefix_cons.1 hother
      rw [List.map_cons, List.sum_cons] at hsum
      exact Nat.succ_le_succ (h.longest other hrest (by omega))

/-- If the first row is not affordable, no row is. -/
theorem of_lt (nonneg : ∀ row ∈ rows, 0 ≤ size row) (hbudget : 0 ≤ budget)
    (h : budget < size row) : LongestAffordable size budget (row :: rows) [] where
  begins := List.nil_prefix
  within := hbudget
  longest other hother hsum := by
    cases other with
    | nil => exact Nat.le_refl _
    | cons first other =>
      obtain ⟨rfl, hrest⟩ := List.cons_prefix_cons.1 hother
      have hothers : 0 ≤ (other.map size).sum :=
        sum_map_nonneg fun row hrow => nonneg row (hrest.subset hrow)
      rw [List.map_cons, List.sum_cons] at hsum
      omega

/-- A budget that is the size of the first row affords this row, and no other one that takes
space. -/
theorem singleton (positive : ∀ other ∈ rows, 0 < size other) :
    LongestAffordable size (size row) (row :: rows) [row] := by
  refine cons ?_
  rw [Int.sub_self]
  cases rows with
  | nil => exact nil (Int.le_refl 0)
  | cons other rows =>
    obtain ⟨hother, hrows⟩ := List.forall_mem_cons.1 positive
    exact of_lt (fun row hrow => Int.le_of_lt (hrows row hrow)) (Int.le_refl 0) hother

/-- What a budget affords is not changed by a limit that the sizes of all rows are within. -/
theorem of_min {limit : Int} (nonneg : ∀ row ∈ rows, 0 ≤ size row)
    (fits : (rows.map size).sum ≤ limit)
    (h : LongestAffordable size (min budget limit) rows chosen) :
    LongestAffordable size budget rows chosen where
  begins := h.begins
  within := h.within.trans (min_le_left budget limit)
  longest other hother hsum := by
    have hall := sum_map_le_of_sublist nonneg hother.sublist
    exact h.longest other hother (le_min hsum (hall.trans fits))

end LongestAffordable

end sizes

/-! ## running sums -/

/-- The sums of sizes up to each place, on top of what they begin with. -/
def sumsFrom (start : Int) : List Int → List Int
  | [] => []
  | size :: sizes => (start + size) :: sumsFrom (start + size) sizes

/-- Running sums do not go below what they begin with. -/
theorem le_of_mem_sumsFrom {start sum : Int} {sizes : List Int} (nonneg : ∀ size ∈ sizes, 0 ≤ size)
    (h : sum ∈ sumsFrom start sizes) : start ≤ sum := by
  induction sizes generalizing start with
  | nil => contradiction
  | cons size sizes ih =>
    obtain ⟨hsize, hsizes⟩ := List.forall_mem_cons.1 nonneg
    rcases List.mem_cons.1 h with rfl | h
    · omega
    · have hle := ih hsizes h
      omega

/-- Sizes that can be added up have their sums. -/
theorem runningSums_of_le {start : Int} {sizes : List Int} (hstart : 0 ≤ start)
    (nonneg : ∀ size ∈ sizes, 0 ≤ size) (fits : start + sizes.sum ≤ maxInteger) :
    runningSums (.exact start) (sizes.map .integer)
      = .ok ((sumsFrom start sizes).map fun sum => some (.integer sum)) := by
  induction sizes generalizing start with
  | nil => rfl
  | cons size sizes ih =>
    obtain ⟨hsize, hsizes⟩ := List.forall_mem_cons.1 nonneg
    have hrest : 0 ≤ sizes.sum := List.sum_nonneg hsizes
    rw [List.sum_cons, ← Int.add_assoc] at fits
    have hlow : minInteger ≤ start + size := by
      rw [minInteger]
      omega
    have hhigh : start + size ≤ maxInteger := by omega
    rw [List.map_cons, runningSums, Total.add_integer hlow hhigh, Total.value_exact,
      ih (by omega) hsizes fits]
    rfl

/-- Sizes that are too many to be added up have no sums. -/
theorem runningSums_of_lt {start : Int} {sizes : List Int} (hstart : 0 ≤ start)
    (hfits : start ≤ maxInteger) (nonneg : ∀ size ∈ sizes, 0 ≤ size)
    (h : maxInteger < start + sizes.sum) :
    runningSums (.exact start) (sizes.map .integer) = .error .sumOverflowed := by
  induction sizes generalizing start with
  | nil =>
    rw [List.sum_nil, Int.add_zero] at h
    omega
  | cons size sizes ih =>
    obtain ⟨hsize, hsizes⟩ := List.forall_mem_cons.1 nonneg
    rw [List.sum_cons, ← Int.add_assoc] at h
    rw [List.map_cons, runningSums]
    by_cases hhigh : start + size ≤ maxInteger
    · have hlow : minInteger ≤ start + size := by
        rw [minInteger]
        omega
      rw [Total.add_integer hlow hhigh, Total.value_exact, ih (by omega) hhigh hsizes h]
      rfl
    · have hlost : (Total.exact start).add (.integer size)
          = .overflown ((Approximation.ofInt start).addInt size) :=
        if_neg fun hboth => hhigh hboth.2
      rw [hlost]
      rfl

/-- The rows that are kept for their running sums are the longest prefix that is affordable. -/
theorem longestAffordable_filter {size : α → Int} {budget start : Int} {rows : List α}
    (nonneg : ∀ row ∈ rows, 0 ≤ size row) (hstart : start ≤ budget) :
    LongestAffordable size (budget - start) rows
      (((rows.zip (sumsFrom start (rows.map size))).filter (·.2 ≤ budget)).map (·.1)) := by
  induction rows generalizing start with
  | nil => exact .nil (by omega)
  | cons row rows ih =>
    obtain ⟨hrow, hrows⟩ := List.forall_mem_cons.1 nonneg
    rw [List.map_cons, sumsFrom, List.zip_cons_cons]
    by_cases hfirst : start + size row ≤ budget
    · have hrest := ih hrows hfirst
      rw [← Int.sub_sub] at hrest
      rw [List.filter_cons_of_pos (by simpa using hfirst), List.map_cons]
      exact hrest.cons
    · -- the sums of the rows that follow are beyond the budget as well
      have hnone : ((row, start + size row) ::
          rows.zip (sumsFrom (start + size row) (rows.map size))).filter (·.2 ≤ budget) = [] := by
        rw [List.filter_eq_nil_iff]
        rintro ⟨other, sum⟩ hpair
        have hle : start + size row ≤ sum := by
          rcases List.mem_cons.1 hpair with heq | hmem
          · exact Int.le_of_eq (congrArg Prod.snd heq).symm
          · exact le_of_mem_sumsFrom (List.forall_mem_map.2 hrows) (List.of_mem_zip hmem).2
        simp only [decide_eq_true_eq]
        omega
      rw [hnone, List.map_nil]
      exact .of_lt hrows (by omega) (by omega)

/-! ## what a budget affords -/

/-- Which rows are affordable goes by the sizes alone. -/
theorem affordable_map (f : α → β) (sizes : List Value) (budget : Int) (rows : List α) :
    affordable sizes budget (rows.map f) = (affordable sizes budget rows).map (List.map f) := by
  unfold affordable
  cases runningSums (.exact 0) sizes with
  | error error => rfl
  | ok sums =>
    change Except.ok _ = Except.ok _
    rw [List.zip_map_left, List.filter_map, List.map_map, List.map_map]
    rfl

section affordable

variable {size : α → Int} {rows : List α} (nonneg : ∀ row ∈ rows, 0 ≤ size row)
include nonneg

/-- If the sizes of all rows can be added up, a budget affords the longest prefix within it. -/
theorem affordable_of_le (fits : (rows.map size).sum ≤ maxInteger) {budget : Int}
    (hbudget : 0 ≤ budget) :
    ∃ chosen, affordable ((rows.map size).map .integer) budget rows = .ok chosen ∧
      LongestAffordable size budget rows chosen := by
  have hsums := runningSums_of_le (Int.le_refl 0) (List.forall_mem_map.2 nonneg)
    (by rwa [Int.zero_add])
  have hlongest := longestAffordable_filter nonneg hbudget
  rw [Int.sub_zero] at hlongest
  refine ⟨_, ?_, hlongest⟩
  rw [affordable, hsums]
  change Except.ok _ = Except.ok _
  rw [List.zip_map_right, List.filter_map, List.map_map]
  rfl

/-- If they cannot, no budget affords anything. -/
theorem affordable_of_lt (h : maxInteger < (rows.map size).sum) (budget : Int) :
    affordable ((rows.map size).map .integer) budget rows = .error .sumOverflowed := by
  have hsums := runningSums_of_lt (Int.le_refl 0) (by decide) (List.forall_mem_map.2 nonneg)
    (by rwa [Int.zero_add])
  rw [affordable, hsums]
  rfl

end affordable

end NarIndex.Catalog
