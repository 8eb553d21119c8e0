import Mathlib.Data.List.Sort
import NarIndex.Text.Order

/-!
# NarIndex.Proofs.Text.Order

Texts in the order of their bytes.  Texts that ascend strictly are determined by which ones they are
(`eq_of_ascends`), so that it is enough to look at their members to know that some of them stand
within others (`sublist_of_ascends`), or are others merged together (`merge_eq_of_ascends`).
-/

namespace NarIndex.Text

variable {texts others : List String}

theorem le_trans (a b c : String) (hab : le a b) (hbc : le b c) : le a c :=
  decide_eq_true (List.le_trans (of_decide_eq_true hab) (of_decide_eq_true hbc))

theorem le_total (a b : String) : le a b || le b a := by
  rw [Bool.or_eq_true]
  exact (List.le_total (bytes a) (bytes b)).imp decide_eq_true decide_eq_true

/-- Texts in order that are not repeated ascend strictly. -/
theorem ascends_of_le (h : texts.Pairwise fun a b => le a b) (nodup : texts.Nodup) :
    texts.Pairwise fun a b => bytes a < bytes b := by
  refine (h.and nodup).imp fun hpair => ?_
  obtain ⟨hbytes, hother⟩ := hpair
  exact Std.lt_of_le_of_ne (of_decide_eq_true hbytes) fun heq => hother (bytes_injective heq)

/-- What ascends has nothing twice. -/
theorem nodup_of_ascends (h : texts.Pairwise fun a b => bytes a < bytes b) : texts.Nodup := by
  refine h.imp fun hlt heq => ?_
  rw [heq] at hlt
  exact List.lt_irrefl _ hlt

theorem le_of_ascends (h : texts.Pairwise fun a b => bytes a < bytes b) :
    texts.Pairwise fun a b => le a b :=
  h.imp fun hlt => decide_eq_true (List.le_of_lt hlt)

/-! ## sorted texts -/

theorem mem_sorted {text : String} : text ∈ sorted texts ↔ text ∈ texts :=
  List.mem_mergeSort

/-- Texts without repetition ascend strictly once they are sorted. -/
theorem sorted_ascends (h : texts.Nodup) :
    (sorted texts).Pairwise fun a b => bytes a < bytes b := by
  have hle : (sorted texts).Pairwise fun a b => le a b :=
    List.pairwise_mergeSort le_trans le_total texts
  exact ascends_of_le hle ((List.mergeSort_perm texts le).nodup_iff.2 h)

theorem mem_distinct {text : String} : text ∈ distinct texts ↔ text ∈ texts := by
  rw [distinct, mem_sorted, List.mem_eraseDups]

theorem nodup_eraseDups (texts : List String) : texts.eraseDups.Nodup := by
  match texts with
  | [] => simp
  | text :: texts =>
    rw [List.eraseDups_cons, List.nodup_cons]
    exact ⟨by simp, nodup_eraseDups _⟩
termination_by texts.length
decreasing_by
  have hle := List.length_filter_le (fun other => !other == text) texts
  simp only [List.length_cons]
  omega

/-- However often texts are repeated, they ascend strictly once they are taken each once. -/
theorem distinct_ascends (texts : List String) :
    (distinct texts).Pairwise fun a b => bytes a < bytes b :=
  sorted_ascends (nodup_eraseDups texts)

/-! ## ascending texts -/

section ascends

variable (h : texts.Pairwise fun a b => bytes a < bytes b)
  (hothers : others.Pairwise fun a b => bytes a < bytes b)
include h hothers

/-- Texts that ascend strictly are determined by which ones they are. -/
theorem eq_of_ascends (same : ∀ text, text ∈ texts ↔ text ∈ others) : texts = others := by
  have hirrefl : Std.Irrefl fun a b : String => bytes a < bytes b := ⟨fun a => List.lt_irrefl _⟩
  have hantisymm : Std.Antisymm fun a b : String => bytes a < bytes b :=
    ⟨fun a b hab hba => absurd hba (List.lt_asymm hab)⟩
  exact h.eq_of_mem_iff hothers same

/-- If they are all among others that do, they stand among these in their order. -/
theorem sublist_of_ascends (subset : texts ⊆ others) : texts.Sublist others := by
  have hsame : texts = others.filter (texts.contains ·) := by
    refine eq_of_ascends h (hothers.filter _) fun text => ?_
    simp only [List.mem_filter, List.contains_iff_mem]
    exact ⟨fun hmem => ⟨subset hmem, hmem⟩, And.right⟩
  rw [hsame]
  exact List.filter_sublist

/-- If they are none of others that do, merging both gives all of them. -/
theorem merge_eq_of_ascends {whole : List String}
    (hwhole : whole.Pairwise fun a b => bytes a < bytes b) (disjoint : texts.Disjoint others)
    (same : ∀ text, text ∈ whole ↔ text ∈ texts ∨ text ∈ others) :
    texts.merge others le = whole := by
  have hle := List.pairwise_merge le_trans le_total _ _ (le_of_ascends h)
    (le_of_ascends hothers)
  have hnodup : (texts.merge others le).Nodup :=
    (List.merge_perm_append ..).nodup_iff.2
      ((nodup_of_ascends h).append (nodup_of_ascends hothers) disjoint)
  refine eq_of_ascends (ascends_of_le hle hnodup) hwhole fun text => ?_
  rw [List.mem_merge, same]

end ascends

end NarIndex.Text
