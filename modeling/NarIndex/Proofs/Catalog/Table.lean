import Mathlib.Data.List.Nodup
import NarIndex.Catalog.Listing

/-!
# NarIndex.Proofs.Catalog.Table

Tables as lists of rows: the id of the next row, and rows changed where a condition holds.  In a
table of rows with ids these tell the rows apart, and so do the natural keys (`Keyed`); a table of
relations leads to rows that are there, each relation once (`Linked`).
-/

namespace NarIndex.Catalog

/-! ## the next id -/

/-- The next id is above every id of the table. -/
theorem lt_nextId {ids : List Int} {id : Int} (h : id ∈ ids) : id < nextId ids := by
  cases hmax : ids.max? with
  | none =>
    rw [List.max?_eq_none_iff] at hmax
    rw [hmax] at h
    contradiction
  | some greatest =>
    have hle : id ≤ greatest := (List.max?_le_iff hmax).1 (Int.le_refl greatest) id h
    rw [nextId, hmax, Option.getD_some]
    omega

/-- Where all ids are positive, the next one is. -/
theorem nextId_pos {ids : List Int} (h : ∀ id ∈ ids, 0 < id) : 0 < nextId ids := by
  cases ids with
  | nil => decide
  | cons id ids =>
    have hid : 0 < id := h id List.mem_cons_self
    have hlt : id < nextId (id :: ids) := lt_nextId List.mem_cons_self
    omega

/-! ## changed rows -/

section mapWhere

variable {α β : Type} {p q : α → Bool} {f : α → α} {rows : List α}

theorem mem_mapWhere {row : α} :
    row ∈ mapWhere p f rows ↔ ∃ old ∈ rows, (if p old then f old else old) = row :=
  List.mem_map

/-- What all rows have and the change keeps, the changed rows have. -/
theorem forall_mapWhere {P : α → Prop} (h : ∀ row ∈ rows, P row) (hf : ∀ row, P row → P (f row)) :
    ∀ row ∈ mapWhere p f rows, P row := by
  intro row hrow
  obtain ⟨old, hold, rfl⟩ := mem_mapWhere.1 hrow
  split
  · exact hf old (h old hold)
  · exact h old hold

/-- What all rows have, and one that comes in. -/
theorem forall_append_singleton {P : α → Prop} {row : α} (h : ∀ old ∈ rows, P old) (hrow : P row) :
    ∀ other ∈ rows ++ [row], P other :=
  List.forall_mem_append.2 ⟨h, List.forall_mem_singleton.2 hrow⟩

/-- A column that the change leaves alone is as it was. -/
theorem map_mapWhere {g : α → β} (h : ∀ row, g (f row) = g row) :
    (mapWhere p f rows).map g = rows.map g := by
  rw [mapWhere, List.map_map]
  apply List.map_congr_left
  intro row _
  rw [Function.comp_apply]
  split
  · exact h row
  · rfl

/-- Changing no row changes nothing. -/
theorem mapWhere_eq_self (h : ∀ row ∈ rows, p row = false) : mapWhere p f rows = rows := by
  rw [mapWhere]
  conv => rhs; rw [← List.map_id rows]
  apply List.map_congr_left
  intro row hrow
  rw [h row hrow]
  rfl

/-- Something that the change leaves alone is the same of a row, whether it is changed or not. -/
theorem comp_change (h : ∀ row, q (f row) = q row) :
    (q ∘ fun row => if p row then f row else row) = q := by
  funext row
  rw [Function.comp_apply]
  split
  · exact h row
  · rfl

/-- Finding a row by something that the change leaves alone finds the changed row. -/
theorem find?_mapWhere (h : ∀ row, q (f row) = q row) :
    (mapWhere p f rows).find? q = (rows.find? q).map fun row => if p row then f row else row := by
  rw [mapWhere, List.find?_map, comp_change h]

/-- Finding a row by the very condition that it is changed under. -/
theorem find?_mapWhere_self (h : ∀ row, p (f row) = p row) :
    (mapWhere p f rows).find? p = (rows.find? p).map f := by
  rw [find?_mapWhere h]
  cases hfound : rows.find? p with
  | none => rfl
  | some row => simp [List.find?_some hfound]

/-- Changed rows are there as they were before, going by something that the change leaves alone. -/
theorem any_mapWhere (h : ∀ row, q (f row) = q row) : (mapWhere p f rows).any q = rows.any q := by
  rw [← List.isSome_find?, find?_mapWhere h, Option.isSome_map, List.isSome_find?]

/-- The rows that meet the very condition that they are changed under. -/
theorem filter_mapWhere_self (h : ∀ row, p (f row) = p row) :
    (mapWhere p f rows).filter p = (rows.filter p).map f := by
  rw [mapWhere, List.filter_map, comp_change h]
  refine List.map_congr_left fun row hrow => ?_
  rw [if_pos (List.mem_filter.1 hrow).2]

/-- The rows that meet a condition under which none is changed. -/
theorem filter_mapWhere_of_disjoint (h : ∀ row, q (f row) = q row)
    (disjoint : ∀ row, q row → p row = false) : (mapWhere p f rows).filter q = rows.filter q := by
  rw [mapWhere, List.filter_map, comp_change h]
  conv => rhs; rw [← List.map_id (rows.filter q)]
  refine List.map_congr_left fun row hrow => ?_
  rw [disjoint row (List.mem_filter.1 hrow).2]
  rfl

end mapWhere

/-! ## found rows -/

/-- A key by which no row is found is not taken. -/
theorem notMem_keys_of_find?_eq_none {α κ : Type} [BEq κ] [LawfulBEq κ] {key : α → κ} {k : κ}
    {rows : List α} (h : rows.find? (key · == k) = none) : k ∉ rows.map key := by
  intro hmem
  obtain ⟨row, hrow, hkey⟩ := List.mem_map.1 hmem
  have hne := List.find?_eq_none.1 h row hrow
  rw [hkey, beq_self_eq_true] at hne
  exact hne rfl

/-- A row that comes in last is found if none before it is. -/
theorem find?_append_singleton {α : Type} {p : α → Bool} {rows : List α} {row : α}
    (hrows : ∀ old ∈ rows, p old = false) (hrow : p row) : (rows ++ [row]).find? p = some row := by
  have hnone : rows.find? p = none := by
    rw [List.find?_eq_none]
    intro old hold
    simp [hrows old hold]
  rw [List.find?_append, hnone, Option.none_or, List.find?_singleton, if_pos hrow]

/-- A row that comes in with the next id is found by it. -/
theorem find?_append_nextId {α : Type} {id : α → Int} {rows : List α} {row : α}
    (h : id row = nextId (rows.map id)) :
    (rows ++ [row]).find? (id · == id row) = some row := by
  apply find?_append_singleton
  · intro old hold
    have hlt : id old < nextId (rows.map id) := lt_nextId (List.mem_map_of_mem hold)
    rw [beq_eq_false_iff_ne]
    omega
  · exact beq_self_eq_true _

/-! ## ordered rows -/

theorem mem_byId {α : Type} {id : α → Int} {rows : List α} {row : α} :
    row ∈ byId id rows ↔ row ∈ rows :=
  List.mem_mergeSort

/-- The rows that meet a condition are among the rows, in whatever order. -/
theorem mem_of_mem_byId_filter {α : Type} {id : α → Int} {p : α → Bool} {rows : List α} {row : α}
    (h : row ∈ byId id (rows.filter p)) : row ∈ rows :=
  (List.mem_filter.1 (mem_byId.1 h)).1

/-- A page has rows of the list only. -/
theorem mem_of_mem_page {α : Type} {limit offset : Nat} {rows : List α} {row : α}
    (h : row ∈ page limit offset rows) : row ∈ rows :=
  List.mem_of_mem_drop (List.mem_of_mem_take h)

/-! ## tables of rows -/

/-- Rows told apart by their ids, which are positive and ascend in the order in which the rows came
in, and by their natural keys. -/
structure Keyed {α κ : Type} (id : α → Int) (key : α → κ) (rows : List α) : Prop where
  ids_pos : ∀ row ∈ rows, 0 < id row
  ids_ascend : (rows.map id).Pairwise (· < ·)
  keys_nodup : (rows.map key).Nodup

namespace Keyed

variable {α κ : Type} {id : α → Int} {key : α → κ} {rows : List α}

theorem nil : Keyed id key [] :=
  ⟨by simp, by simp, by simp⟩

/-- No two rows have the same id. -/
theorem ids_nodup (h : Keyed id key rows) : (rows.map id).Nodup :=
  h.ids_ascend.imp Int.ne_of_lt

/-- In the order of their ids, rows are in the order in which they came in. -/
theorem byId_eq (h : Keyed id key rows) : byId id rows = rows := by
  refine List.mergeSort_of_pairwise ((List.pairwise_map.1 h.ids_ascend).imp ?_)
  intro a b hlt
  exact decide_eq_true (Int.le_of_lt hlt)

/-- A row with the next id and a new key comes in. -/
theorem append (h : Keyed id key rows) {row : α} (hid : id row = nextId (rows.map id))
    (hkey : key row ∉ rows.map key) : Keyed id key (rows ++ [row]) where
  ids_pos := by
    have hpos : 0 < nextId (rows.map id) := nextId_pos (List.forall_mem_map.2 h.ids_pos)
    exact forall_append_singleton h.ids_pos (by rwa [hid])
  ids_ascend := by
    rw [List.map_append, List.pairwise_append]
    refine ⟨h.ids_ascend, List.pairwise_singleton _ _, ?_⟩
    intro a ha b hb
    rw [List.mem_singleton.1 hb, hid]
    exact lt_nextId ha
  keys_nodup := by
    rw [List.map_append, List.map_singleton, ← List.concat_eq_append]
    exact List.Nodup.concat hkey h.keys_nodup

/-- Rows go. -/
theorem filter (h : Keyed id key rows) (p : α → Bool) : Keyed id key (rows.filter p) where
  ids_pos row hrow := h.ids_pos row (List.mem_filter.1 hrow).1
  ids_ascend := h.ids_ascend.sublist (List.filter_sublist.map id)
  keys_nodup := h.keys_nodup.sublist (List.filter_sublist.map key)

/-- Rows change, but for their ids and keys. -/
theorem mapWhere (h : Keyed id key rows) (p : α → Bool) {f : α → α}
    (hid : ∀ row, id (f row) = id row) (hkey : ∀ row, key (f row) = key row) :
    Keyed id key (mapWhere p f rows) where
  ids_pos := forall_mapWhere h.ids_pos fun row hrow => by rwa [hid]
  ids_ascend := by
    rw [map_mapWhere hid]
    exact h.ids_ascend
  keys_nodup := by
    rw [map_mapWhere hkey]
    exact h.keys_nodup

end Keyed

/-! ## tables of relations -/

/-- Relations whose ends are rows that are there, told apart by a key. -/
structure Linked {α κ : Type} (key : α → κ) (ends : α → Prop) (links : List α) : Prop where
  ends_exist : ∀ link ∈ links, ends link
  keys_nodup : (links.map key).Nodup

namespace Linked

variable {α κ : Type} {key : α → κ} {ends ends' : α → Prop} {links : List α}

theorem nil : Linked key ends [] :=
  ⟨by simp, by simp⟩

/-- A relation with a new key comes in. -/
theorem append (h : Linked key ends links) {link : α} (hends : ends link)
    (hkey : key link ∉ links.map key) : Linked key ends (links ++ [link]) where
  ends_exist := forall_append_singleton h.ends_exist hends
  keys_nodup := by
    rw [List.map_append, List.map_singleton, ← List.concat_eq_append]
    exact List.Nodup.concat hkey h.keys_nodup

/-- Relations go, and those that stay keep their ends. -/
theorem filter (h : Linked key ends links) {p : α → Bool}
    (hends : ∀ link, ends link → p link → ends' link) : Linked key ends' (links.filter p) where
  ends_exist link hlink := by
    obtain ⟨hold, hp⟩ := List.mem_filter.1 hlink
    exact hends link (h.ends_exist link hold) hp
  keys_nodup := h.keys_nodup.sublist (List.filter_sublist.map key)

/-- The rows that relations lead to stay. -/
theorem mono (h : Linked key ends links) (hends : ∀ link, ends link → ends' link) :
    Linked key ends' links :=
  ⟨fun link hlink => hends link (h.ends_exist link hlink), h.keys_nodup⟩

end Linked

end NarIndex.Catalog
