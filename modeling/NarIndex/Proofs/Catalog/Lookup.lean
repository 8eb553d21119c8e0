import NarIndex.Proofs.Catalog.Table
import NarIndex.Proofs.Text.Order

/-!
# NarIndex.Proofs.Catalog.Lookup

What look-ups find in a table.  Ids and natural keys tell rows apart, so that whatever has an id or
a key is found by it (`Keyed.find?_id_eq_some`, `Keyed.find?_key_eq_some`); and the first row that
meets a condition is the one with the lowest id (`Keyed.head?_eq_some`).  The hashes of some
NarInfos are listed each once, in the order of their bytes (`Keyed.hashesWhere_ascends`).
-/

namespace NarIndex.Catalog

/-- Where a column tells rows apart, a row is found by its value in it. -/
theorem find?_column_eq_some {α κ : Type} [BEq κ] [LawfulBEq κ] {column : α → κ} {rows : List α}
    (h : (rows.map column).Nodup) {k : κ} {row : α} :
    rows.find? (column · == k) = some row ↔ row ∈ rows ∧ column row = k := by
  constructor
  · intro hfind
    exact ⟨List.mem_of_find?_eq_some hfind, by simpa using List.find?_some hfind⟩
  · rintro ⟨hrow, hcolumn⟩
    have hsome : (rows.find? (column · == k)).isSome :=
      List.find?_isSome.2 ⟨row, hrow, beq_iff_eq.2 hcolumn⟩
    obtain ⟨found, hfound⟩ := Option.isSome_iff_exists.1 hsome
    have hvalue : column found = k := by simpa using List.find?_some hfound
    have hsame : column found = column row := hvalue.trans hcolumn.symm
    rw [hfound, List.inj_on_of_nodup_map h (List.mem_of_find?_eq_some hfound) hrow hsame]

/-- Where no row has a value in a column, none is found. -/
theorem find?_column_eq_none {α κ : Type} [BEq κ] [LawfulBEq κ] {column : α → κ} {rows : List α}
    {k : κ} : rows.find? (column · == k) = none ↔ ∀ row ∈ rows, column row ≠ k := by
  simp

namespace Keyed

variable {α κ : Type} {id : α → Int} {key : α → κ} {rows : List α} (h : Keyed id key rows)
include h

/-- A row is found by its id just if it is there. -/
theorem find?_id_eq_some {n : Int} {row : α} :
    rows.find? (id · == n) = some row ↔ row ∈ rows ∧ id row = n :=
  find?_column_eq_some h.ids_nodup

/-- A row is found by its key just if it is there. -/
theorem find?_key_eq_some [BEq κ] [LawfulBEq κ] {k : κ} {row : α} :
    rows.find? (key · == k) = some row ↔ row ∈ rows ∧ key row = k :=
  find?_column_eq_some h.keys_nodup

/-- The first row that meets a condition has the lowest id of all that do. -/
theorem least_of_head? {p : α → Bool} {row : α}
    (hhead : (byId id (rows.filter p)).head? = some row) :
    row ∈ rows ∧ p row ∧ ∀ other ∈ rows, p other → id row ≤ id other := by
  have hpart := h.filter p
  rw [hpart.byId_eq] at hhead
  obtain ⟨hrow, hp⟩ := List.mem_filter.1 (List.mem_of_head? hhead)
  refine ⟨hrow, hp, fun other hother hmeets => ?_⟩
  have hmem : other ∈ rows.filter p := List.mem_filter.2 ⟨hother, hmeets⟩
  have hascend := hpart.ids_ascend
  obtain ⟨rest, hrest⟩ := List.head?_eq_some_iff.1 hhead
  rw [hrest, List.map_cons, List.pairwise_cons] at hascend
  rw [hrest] at hmem
  rcases List.mem_cons.1 hmem with rfl | hbehind
  · exact Int.le_refl _
  · exact Int.le_of_lt (hascend.1 _ (List.mem_map_of_mem hbehind))

/-- There is no first row if none meets the condition. -/
theorem head?_eq_none {p : α → Bool} :
    (byId id (rows.filter p)).head? = none ↔ ∀ row ∈ rows, p row = false := by
  rw [(h.filter p).byId_eq, List.head?_eq_none_iff, List.filter_eq_nil_iff]
  simp

/-- The first row by id that meets a condition has the lowest id of those that do. -/
theorem head?_eq_some {p : α → Bool} {row : α} :
    (byId id (rows.filter p)).head? = some row
      ↔ row ∈ rows ∧ p row ∧ ∀ other ∈ rows, p other → id row ≤ id other := by
  refine ⟨h.least_of_head?, ?_⟩
  rintro ⟨hrow, hp, hleast⟩
  cases hhead : (byId id (rows.filter p)).head? with
  | none =>
    rw [h.head?_eq_none.1 hhead row hrow] at hp
    contradiction
  | some first =>
    obtain ⟨hfirst, hmeets, hbefore⟩ := h.least_of_head? hhead
    have hsame : id first = id row :=
      Int.le_antisymm (hbefore row hrow hp) (hleast first hfirst hmeets)
    rw [List.inj_on_of_nodup_map h.ids_nodup hfirst hrow hsame]

end Keyed

/-! ## hashes -/

section hashes

variable {catalog : Catalog} {p : NarInfo Value → Bool}

/-- A hash is listed if a NarInfo with it meets the condition. -/
theorem mem_hashesWhere {hash : String} :
    hash ∈ catalog.hashesWhere p ↔ ∃ row ∈ catalog.narInfos, p row ∧ row.hash = hash := by
  simp [hashesWhere, Text.mem_sorted, and_assoc]

/-- Hashes are listed in ascending order, each of them once. -/
theorem Keyed.hashesWhere_ascends (h : Keyed (·.id) (·.hash) catalog.narInfos) :
    (catalog.hashesWhere p).Pairwise fun a b => Text.bytes a < Text.bytes b :=
  Text.sorted_ascends (h.filter p).keys_nodup

end hashes

end NarIndex.Catalog
