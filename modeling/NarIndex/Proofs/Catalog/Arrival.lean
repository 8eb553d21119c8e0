import Mathlib.Data.List.Dedup
import NarIndex.Proofs.Catalog.WellFormed

/-!
# NarIndex.Proofs.Catalog.Arrival

The order in which rows came in.  A log names the natural keys of rows in the order in which they
came in; a key that came in again stands in it again, and then counts from its last place.  One
call brings one row in at most (`Effect.progresses`).  If the rows of a table were in the order of
the log before a call, they are after it in that of the log with what the call has brought in
(`Progress.inOrder`); ids have no part in that, and those of rows that have gone come back.
-/

namespace NarIndex.Catalog

/-! ## logs -/

section logs

variable {κ : Type} [DecidableEq κ] {log keys : List κ}

/-- A key that comes in anew goes to the end of a log, and leaves the others as they are. -/
theorem sublist_dedup_append {k : κ} (h : keys.Sublist log.dedup) (new : k ∉ keys) :
    (keys ++ [k]).Sublist (log ++ [k]).dedup := by
  induction log generalizing keys with
  | nil =>
    rw [List.sublist_nil.1 h]
    exact List.Sublist.refl _
  | cons first log ih =>
    rw [List.cons_append]
    by_cases hfirst : first ∈ log
    · -- the key comes in again further on
      rw [List.dedup_cons_of_mem hfirst] at h
      rw [List.dedup_cons_of_mem (List.mem_append_left _ hfirst)]
      exact ih h new
    · rw [List.dedup_cons_of_notMem hfirst] at h
      by_cases hk : first = k
      · -- it is the very key that comes in, and so it is not among those that are there
        have hskip : keys.Sublist log.dedup := by
          rcases List.sublist_cons_iff.1 h with hskip | ⟨rest, rfl, -⟩
          · exact hskip
          · exact absurd List.mem_cons_self (hk ▸ new)
        rw [hk, List.dedup_cons_of_mem (List.mem_append_right _ List.mem_cons_self)]
        exact ih hskip new
      · have hlast : first ∉ log ++ [k] := by simp [hfirst, hk]
        rw [List.dedup_cons_of_notMem hlast]
        rcases List.sublist_cons_iff.1 h with hskip | ⟨rest, rfl, hrest⟩
        · exact (ih hskip new).cons first
        · exact (ih hrest fun hmem => new (List.mem_cons_of_mem first hmem)).cons_cons first

/-- Some of the members of a list without repetition, in its order, are those that it has of
them. -/
theorem filter_mem_of_sublist {order : List κ} (h : keys.Sublist order) (nodup : order.Nodup) :
    order.filter (· ∈ keys) = keys := by
  induction h with
  | slnil => rfl
  | @cons keys order k hsub ih =>
    obtain ⟨hk, hnodup⟩ := List.nodup_cons.1 nodup
    have hout : k ∉ keys := fun hmem => hk (hsub.subset hmem)
    rw [List.filter_cons_of_neg (by simpa using hout), ih hnodup]
  | @cons_cons keys order k hsub ih =>
    obtain ⟨hk, hnodup⟩ := List.nodup_cons.1 nodup
    have hrest : order.filter (· ∈ k :: keys) = order.filter (· ∈ keys) := by
      refine List.filter_congr fun other hother => ?_
      have hne : other ≠ k := fun heq => hk (heq ▸ hother)
      simp [hne]
    rw [List.filter_cons_of_pos (by simp), hrest, ih hnodup]

end logs

/-! ## one table -/

/-- What one call does to the keys of a table: some may go, or one comes in behind the others. -/
inductive Progress {α κ : Type} (key : α → κ) (before after : List α) : Prop
  | loses (keys : (after.map key).Sublist (before.map key))
  | gains (k : κ) (new : k ∉ before.map key) (keys : after.map key = before.map key ++ [k])

namespace Progress

variable {α κ : Type} {key : α → κ} {rows : List α}

theorem refl (key : α → κ) (rows : List α) : Progress key rows rows :=
  .loses (List.Sublist.refl _)

/-- A row with a new key comes in behind the others. -/
theorem append {row : α} (new : key row ∉ rows.map key) : Progress key rows (rows ++ [row]) :=
  .gains (key row) new List.map_append

theorem filter (p : α → Bool) : Progress key rows (rows.filter p) :=
  .loses (List.filter_sublist.map key)

theorem mapWhere (p : α → Bool) {f : α → α} (hkey : ∀ row, key (f row) = key row) :
    Progress key rows (mapWhere p f rows) := by
  refine .loses ?_
  rw [map_mapWhere hkey]

end Progress

section table

variable {α κ : Type} [DecidableEq κ] {key : α → κ} {before after : List α} {log : List κ}

/-- The keys of rows that have come in between one state of a table and the next. -/
def arrived (key : α → κ) (before after : List α) : List κ :=
  (after.map key).filter (· ∉ before.map key)

/-- The rows of a table are in the order in which they came in, as a log tells it. -/
def InOrderOfArrival (key : α → κ) (rows : List α) (log : List κ) : Prop :=
  (rows.map key).Sublist log.dedup

namespace Progress

/-- Nothing arrives where rows only go. -/
theorem arrived_of_loses (h : (after.map key).Sublist (before.map key)) :
    arrived key before after = [] := by
  rw [arrived, List.filter_eq_nil_iff]
  intro k hk
  simpa using h.subset hk

/-- The one key that is new is what has arrived. -/
theorem arrived_of_gains {k : κ} (new : k ∉ before.map key)
    (h : after.map key = before.map key ++ [k]) : arrived key before after = [k] := by
  have hnone : (before.map key).filter (· ∉ before.map key) = [] := by
    rw [List.filter_eq_nil_iff]
    intro other hother
    simpa using hother
  rw [arrived, h, List.filter_append, hnone, List.nil_append,
    List.filter_cons_of_pos (by simpa using new), List.filter_nil]

/-- Rows in the order of a log are in the order of the log with what has come in. -/
theorem inOrder (h : Progress key before after) (hbefore : InOrderOfArrival key before log) :
    InOrderOfArrival key after (log ++ arrived key before after) := by
  cases h with
  | loses keys =>
    rw [arrived_of_loses keys, List.append_nil]
    exact keys.trans hbefore
  | gains k new keys =>
    rw [arrived_of_gains new keys, InOrderOfArrival, keys]
    exact sublist_dedup_append hbefore new

end Progress

/-! ### ids -/

/-- Between two numbers, there is only so much room for numbers that ascend. -/
theorem length_le_of_ascends {ids : List Int} {lowest greatest : Int}
    (hascend : ids.Pairwise (· < ·)) (hle : lowest ≤ greatest)
    (hmem : ∀ n ∈ ids, lowest < n ∧ n ≤ greatest) : lowest + ids.length ≤ greatest := by
  induction ids generalizing lowest with
  | nil => simpa using hle
  | cons n ids ih =>
    obtain ⟨hn, hrest⟩ := List.forall_mem_cons.1 hmem
    obtain ⟨hbefore, hids⟩ := List.pairwise_cons.1 hascend
    have hfurther := ih hids hn.2 fun m hm => ⟨hbefore m hm, (hrest m hm).2⟩
    rw [List.length_cons]
    omega

section ids

variable {id : α → Int} {rows : List α} (h : Keyed id key rows)

/-- The rows that are there, in the order of their ids, are in the order of the log. -/
theorem InOrderOfArrival.keys_byId (hlog : InOrderOfArrival key rows log)
    (h : Keyed id key rows) :
    (byId id rows).map key = log.dedup.filter (· ∈ rows.map key) := by
  rw [h.byId_eq, filter_mem_of_sublist hlog (List.nodup_dedup log)]

omit [DecidableEq κ] in
include h in
/-- Of two rows, that with the lower id stands before the other one. -/
theorem Keyed.pair_sublist {a b : α} (ha : a ∈ rows) (hb : b ∈ rows) (hlt : id a < id b) :
    [a, b].Sublist rows := by
  obtain ⟨front, back, rfl⟩ := List.append_of_mem ha
  have hascend := h.ids_ascend
  rw [List.map_append, List.map_cons, List.pairwise_append] at hascend
  rcases List.mem_append.1 hb with hfront | hback
  · have hgt : id b < id a :=
      hascend.2.2 _ (List.mem_map_of_mem hfront) _ List.mem_cons_self
    omega
  · rcases List.mem_cons.1 hback with rfl | hbehind
    · omega
    · exact ((List.singleton_sublist.2 hbehind).cons_cons a).trans
        (List.sublist_append_right front _)

/-- Of two rows, that with the lower id came in before the other one. -/
theorem InOrderOfArrival.id_le_iff (hlog : InOrderOfArrival key rows log)
    (h : Keyed id key rows) {a b : α} (ha : a ∈ rows) (hb : b ∈ rows) (hne : b ≠ a) :
    id a ≤ id b ↔ [key a, key b].Sublist log.dedup := by
  constructor
  · intro hle
    have hids : id a ≠ id b := fun heq =>
      hne (List.inj_on_of_nodup_map h.ids_nodup hb ha heq.symm)
    exact ((h.pair_sublist ha hb (by omega)).map key).trans hlog
  · intro hpair
    have hthere : [key a, key b].filter (· ∈ rows.map key) = [key a, key b] :=
      List.filter_eq_self.2 (List.forall_mem_cons.2 ⟨decide_eq_true (List.mem_map_of_mem ha),
        List.forall_mem_singleton.2 (decide_eq_true (List.mem_map_of_mem hb))⟩)
    have hkeys := hpair.filter (· ∈ rows.map key)
    rw [hthere, filter_mem_of_sublist hlog (List.nodup_dedup log)] at hkeys
    obtain ⟨pair, hsub, heq⟩ := List.sublist_map_iff.1 hkeys
    obtain ⟨a', rest, rfl, ha', hrest⟩ := List.map_eq_cons_iff.1 heq.symm
    obtain ⟨b', rest, rfl, hb', hnil⟩ := List.map_eq_cons_iff.1 hrest
    obtain rfl := List.map_eq_nil_iff.1 hnil
    have hlt : id a' < id b' :=
      List.pairwise_iff_forall_sublist.1 (List.pairwise_map.1 h.ids_ascend) hsub
    have hmem := hsub.subset
    rw [List.inj_on_of_nodup_map h.keys_nodup (hmem List.mem_cons_self) ha ha',
      List.inj_on_of_nodup_map h.keys_nodup
        (hmem (List.mem_cons_of_mem _ List.mem_cons_self)) hb hb'] at hlt
    exact Int.le_of_lt hlt

omit [DecidableEq κ] in
include h in
/-- There are no more rows than ids. -/
theorem Keyed.length_le {greatest : Int} (hnonneg : 0 ≤ greatest)
    (hids : ∀ row ∈ rows, id row ≤ greatest) : (rows.length : Int) ≤ greatest := by
  have hlength := length_le_of_ascends h.ids_ascend hnonneg
    (List.forall_mem_map.2 fun row hrow => ⟨h.ids_pos row hrow, hids row hrow⟩)
  rw [List.length_map] at hlength
  omega

end ids

end table

/-! ## all tables -/

/-- What one call does to the keys of the tables. -/
structure Progresses (before after : Catalog) : Prop where
  narInfos : Progress (·.hash) before.narInfos after.narInfos
  narFiles : Progress (·.key) before.narFiles after.narFiles
  chunks : Progress (·.hash) before.chunks after.chunks
  settings : Progress (·.key) before.settings after.settings

variable {before after : Catalog}

theorem Progresses.refl (catalog : Catalog) : Progresses catalog catalog :=
  ⟨.refl _ _, .refl _ _, .refl _ _, .refl _ _⟩

/-- An edit lets rows go or one come in, in each table. -/
theorem Edit.progresses (h : Edit before after) : Progresses before after := by
  have hsame := Progresses.refl before
  cases h with
  | addNarInfo now absent =>
    exact { hsame with narInfos := .append (notMem_keys_of_find?_eq_none absent) }
  | alterNarInfos p alters => exact { hsame with narInfos := .mapWhere p alters.hash_eq }
  | dropNarInfos p => exact { hsame with narInfos := .filter _ }
  | addNarFile now absent =>
    exact { hsame with narFiles := .append (notMem_keys_of_find?_eq_none absent) }
  | alterNarFiles p alters => exact { hsame with narFiles := .mapWhere p alters.key_eq }
  | dropNarFiles p => exact { hsame with narFiles := .filter _ }
  | addChunk now absent =>
    exact { hsame with chunks := .append (notMem_keys_of_find?_eq_none absent) }
  | dropChunks p => exact { hsame with chunks := .filter _ }
  | addSetting value now absent =>
    exact { hsame with settings := .append (notMem_keys_of_find?_eq_none absent) }
  | overwriteSettings p => exact { hsame with settings := .mapWhere p fun _ => rfl }
  | addReference | addSignature | linkFile | linkChunk =>
    exact ⟨hsame.narInfos, hsame.narFiles, hsame.chunks, hsame.settings⟩

/-- So does whatever one call comes to. -/
theorem Effect.progresses (h : Effect before after) : Progresses before after := by
  cases h with
  | edit edit => exact edit.progresses
  | relations relates =>
    refine ⟨?_, ?_, ?_, ?_⟩
    · rw [relates.narInfos]
      exact .refl _ _
    · rw [relates.narFiles]
      exact .refl _ _
    · rw [relates.chunks]
      exact .refl _ _
    · rw [relates.settings]
      exact .refl _ _

end NarIndex.Catalog
