import NarIndex.Text.Blank
import NarIndex.Text.Split

/-!
# NarIndex.Proofs.Text.Split

Cuts of a text that is put together from others: where the cut falls if the first text has no
separator, or if the separator stands between the two; and that pieces without the separator are
what a text is cut into that joins them (`splitOn_joinWith`).
-/

namespace NarIndex.Text

variable {sep : Char} {a s : List Char}

/-! ## the first separator -/

/-- A cut falls behind a text without the separator. -/
theorem cut?_append (h : sep ∉ a) :
    cut? sep (a ++ s) = (cut? sep s).map fun (front, rest) => (a ++ front, rest) := by
  induction a with
  | nil => simp
  | cons c a ih =>
    obtain ⟨hc, ha⟩ := not_or.1 (mt List.mem_cons.2 h)
    simp [cut?, Ne.symm hc, ih ha, Function.comp_def]

theorem cut?_append_cons (h : sep ∉ a) : cut? sep (a ++ sep :: s) = some (a, s) := by
  simp [cut?_append h, cut?]

/-- Either nothing is cut off, or what stands before the cut has no separator. -/
theorem cut?_cases (sep : Char) (s : List Char) :
    (cut? sep s = none ∧ sep ∉ s) ∨
      ∃ a b, cut? sep s = some (a, b) ∧ s = a ++ sep :: b ∧ sep ∉ a := by
  by_cases h : sep ∈ s
  · obtain ⟨a, b, rfl, ha⟩ := List.eq_append_cons_of_mem h
    exact .inr ⟨a, b, cut?_append_cons ha, rfl, ha⟩
  · exact .inl ⟨by simpa [cut?] using cut?_append (s := []) h, h⟩

/-- A replacement of a text that begins with a character falls behind a text without it. -/
theorem replaceFirst_append {old new : List Char} (h : sep ∉ a) :
    replaceFirst (sep :: old) new (a ++ s) = a ++ replaceFirst (sep :: old) new s := by
  induction a with
  | nil => rfl
  | cons c a ih =>
    obtain ⟨hc, ha⟩ := not_or.1 (mt List.mem_cons.2 h)
    simp [replaceFirst, dropPrefix?, hc, ih ha]

theorem dropPrefix?_eq_none_iff {old : List Char} : dropPrefix? old s = none ↔ ¬old <+: s := by
  induction old generalizing s with
  | nil => simp [dropPrefix?]
  | cons d old ih =>
    cases s with
    | nil => simp [dropPrefix?]
    | cons c s =>
      by_cases hc : d = c
      · simp [dropPrefix?, hc, ih]
      · simp [dropPrefix?, hc]

theorem dropPrefix?_append (old s : List Char) : dropPrefix? old (old ++ s) = some s := by
  induction old with
  | nil => rfl
  | cons c old ih => simp [dropPrefix?, ih]

/-- A replacement does not fall where the text does not begin so. -/
theorem replaceFirst_cons_of_not_begins {old new : List Char} {c : Char} (h : ¬old <+: c :: s) :
    replaceFirst old new (c :: s) = c :: replaceFirst old new s := by
  rw [replaceFirst, dropPrefix?_eq_none_iff.2 h]

/-- What does not begin a text does not begin it with a separator behind it. -/
theorem not_prefix_append_cons {old : List Char} (hsep : sep ∉ old) (h : ¬old <+: a) :
    ¬old <+: a ++ sep :: s := by
  induction a generalizing old with
  | nil =>
    cases old with
    | nil => exact absurd List.nil_prefix h
    | cons d old =>
      have hd : d ≠ sep := fun heq => hsep (heq ▸ List.mem_cons_self)
      simp [List.cons_prefix_cons, hd]
  | cons c a ih =>
    cases old with
    | nil => exact absurd List.nil_prefix h
    | cons d old =>
      rw [List.cons_append, List.cons_prefix_cons]
      rintro ⟨rfl, hold⟩
      exact ih (fun hmem => hsep (List.mem_cons_of_mem d hmem))
        (fun h' => h (List.cons_prefix_cons.2 ⟨rfl, h'⟩)) hold

/-- A replacement falls behind a text that does not have what is replaced, if the character behind
that text has no place in it. -/
theorem replaceFirst_append_of_not_occurs {old new : List Char} (hsep : sep ∉ old) (hold : old ≠ [])
    (h : ¬old <:+: a) :
    replaceFirst old new (a ++ sep :: s) = a ++ sep :: replaceFirst old new s := by
  induction a with
  | nil =>
    have hnil : ¬old <+: [] := mt List.prefix_nil.1 hold
    exact replaceFirst_cons_of_not_begins (not_prefix_append_cons hsep hnil)
  | cons c a ih =>
    have hbegins : ¬old <+: c :: a := fun hp => h hp.isInfix
    have hoccurs : ¬old <:+: a := fun hi => h (hi.trans (List.suffix_cons c a).isInfix)
    have hlonger : ¬old <+: c :: (a ++ sep :: s) := not_prefix_append_cons hsep hbegins
    rw [List.cons_append, replaceFirst_cons_of_not_begins hlonger, ih hoccurs]
    rfl

theorem replaceFirst_of_not_occurs {old new : List Char} (h : ¬old <:+: s) :
    replaceFirst old new s = s := by
  induction s with
  | nil => rfl
  | cons c s ih =>
    have hoccurs : ¬old <:+: s := fun hi => h (hi.trans (List.suffix_cons c s).isInfix)
    rw [replaceFirst_cons_of_not_begins fun hp => h hp.isInfix, ih hoccurs]

/-! ## the last separator -/

/-- A text cut at the last separator, with the separator of a text before it: what the cut adds to
that text, and what stands behind the cut. -/
def cutBehind (sep : Char) (s : List Char) : List Char × List Char :=
  match cutLast? sep s with
  | some (front, rest) => (sep :: front, rest)
  | none => ([], s)

theorem cutLast?_append_cons :
    cutLast? sep (a ++ sep :: s) = some (a ++ (cutBehind sep s).1, (cutBehind sep s).2) := by
  induction a with
  | nil =>
    simp only [List.nil_append, cutLast?, cutBehind]
    cases cutLast? sep s <;> simp
  | cons c a ih => simp [cutLast?, ih]

theorem cutLast?_of_notMem (h : sep ∉ s) : cutLast? sep s = none := by
  induction s with
  | nil => rfl
  | cons c s ih =>
    obtain ⟨hc, hs⟩ := not_or.1 (mt List.mem_cons.2 h)
    rw [cutLast?, ih hs]
    exact if_neg (Ne.symm hc)

/-- A text is cut at the last separator. -/
theorem cutLast?_append_cons_of_notMem (h : sep ∉ s) :
    cutLast? sep (a ++ sep :: s) = some (a, s) := by
  simp [cutLast?_append_cons, cutBehind, cutLast?_of_notMem h]

/-- A separator that stands in a text has a last place there. -/
theorem notMem_or_exists_last (sep : Char) (s : List Char) :
    sep ∉ s ∨ ∃ a b, s = a ++ sep :: b ∧ sep ∉ b := by
  induction s with
  | nil => exact .inl List.not_mem_nil
  | cons c s ih =>
    rcases ih with hs | ⟨a, b, rfl, hb⟩
    · by_cases hc : sep = c
      · exact .inr ⟨[], s, by rw [hc]; rfl, hs⟩
      · exact .inl (by simp [hc, hs])
    · exact .inr ⟨c :: a, b, rfl, hb⟩

/-! ## all separators -/

/-- A character that separates nothing belongs to the first piece. -/
theorem splitOn_cons_of_ne {c : Char} (h : c ≠ sep) (s : List Char) :
    ∃ piece pieces, splitOn sep s = piece :: pieces ∧
      splitOn sep (c :: s) = (c :: piece) :: pieces := by
  obtain ⟨piece, pieces, hs⟩ := List.exists_cons_of_ne_nil (splitOn_ne_nil sep s)
  exact ⟨piece, pieces, hs, by rw [splitOn, if_neg h, hs]⟩

/-- A separator ends the pieces before it. -/
theorem splitOn_append_cons (sep : Char) (a s : List Char) :
    splitOn sep (a ++ sep :: s) = splitOn sep a ++ splitOn sep s := by
  induction a with
  | nil => simp [splitOn]
  | cons c a ih =>
    by_cases hc : c = sep
    · simp [splitOn, hc, ih]
    · obtain ⟨piece, pieces, ha, hca⟩ := splitOn_cons_of_ne hc a
      rw [hca, List.cons_append, splitOn, if_neg hc, ih, ha]
      rfl

theorem splitOn_of_notMem (h : sep ∉ s) : splitOn sep s = [s] := by
  induction s with
  | nil => rfl
  | cons c s ih =>
    obtain ⟨hc, hs⟩ := not_or.1 (mt List.mem_cons.2 h)
    rw [splitOn, if_neg (Ne.symm hc), ih hs]

/-- Pieces without the separator are what is cut apart again. -/
theorem splitOn_joinWith {pieces : List (List Char)} (hne : pieces ≠ [])
    (h : ∀ piece ∈ pieces, sep ∉ piece) : splitOn sep (joinWith [sep] pieces) = pieces := by
  induction pieces with
  | nil => contradiction
  | cons piece pieces ih =>
    obtain ⟨hpiece, hpieces⟩ := List.forall_mem_cons.1 h
    cases pieces with
    | nil => exact splitOn_of_notMem hpiece
    | cons next pieces =>
      simp only [joinWith, List.append_assoc, List.singleton_append]
      rw [splitOn_append_cons, splitOn_of_notMem hpiece, ih (List.cons_ne_nil _ _) hpieces]
      rfl

/-- A text is put together again from its pieces. -/
theorem joinWith_splitOn (sep : Char) (s : List Char) : joinWith [sep] (splitOn sep s) = s := by
  induction s with
  | nil => rfl
  | cons c s ih =>
    by_cases hc : c = sep
    · obtain ⟨piece, pieces, hs⟩ := List.exists_cons_of_ne_nil (splitOn_ne_nil sep s)
      rw [splitOn, if_pos hc, hs, joinWith, ← hs, ih, hc]
      · rfl
      · simp
    · obtain ⟨piece, pieces, hs, hcs⟩ := splitOn_cons_of_ne hc s
      rw [hs] at ih
      rw [hcs, ← ih]
      cases pieces <;> rfl

/-- Pieces put together begin like the first one. -/
theorem exists_joinWith_eq_cons (sep : List Char) (c : Char) (piece : List Char)
    (pieces : List (List Char)) : ∃ s, joinWith sep ((c :: piece) :: pieces) = c :: s := by
  cases pieces <;> exact ⟨_, rfl⟩

/-- Between a piece and what is put together from those behind it stands a separator or nothing. -/
theorem exists_joinWith_cons (sep : List Char) (piece : List Char) (pieces : List (List Char)) :
    ∃ between, joinWith sep (piece :: pieces) = piece ++ (between ++ joinWith sep pieces) := by
  cases pieces with
  | nil => exact ⟨[], by simp [joinWith]⟩
  | cons next pieces => exact ⟨sep, List.append_assoc piece sep _⟩

theorem intercalate_eq_joinWith (sep : List Char) (pieces : List (List Char)) :
    sep.intercalate pieces = joinWith sep pieces := by
  induction pieces with
  | nil => rfl
  | cons piece pieces ih =>
    cases pieces with
    | nil => simp [joinWith]
    | cons next pieces =>
      rw [List.intercalate_cons_cons, ih]
      rfl

/-- Pieces with a separator before each of them. -/
theorem flatMap_cons_eq_joinWith (sep : Char) (piece : List Char) (pieces : List (List Char)) :
    (piece :: pieces).flatMap (sep :: ·) = sep :: joinWith [sep] (piece :: pieces) := by
  induction pieces generalizing piece with
  | nil => simp [joinWith]
  | cons next pieces ih =>
    have hnext := ih next
    simp only [List.flatMap_cons, joinWith] at hnext ⊢
    simp [hnext]

/-- A piece has no separator in it, and no character that the text has not. -/
theorem of_mem_splitOn {piece : List Char} (h : piece ∈ splitOn sep s) :
    sep ∉ piece ∧ piece ⊆ s := by
  induction s generalizing piece with
  | nil => simp_all [splitOn]
  | cons c s ih =>
    by_cases hc : c = sep
    · rw [splitOn, if_pos hc] at h
      rcases List.mem_cons.1 h with rfl | h
      · exact ⟨List.not_mem_nil, List.nil_subset _⟩
      · exact ⟨(ih h).1, List.subset_cons_of_subset c (ih h).2⟩
    · obtain ⟨first, pieces, hs, hcs⟩ := splitOn_cons_of_ne hc s
      rw [hs] at ih
      rw [hcs] at h
      rcases List.mem_cons.1 h with rfl | h
      · obtain ⟨hsep, hsubset⟩ := ih List.mem_cons_self
        exact ⟨by simp [Ne.symm hc, hsep], List.cons_subset_cons c hsubset⟩
      · obtain ⟨hsep, hsubset⟩ := ih (List.mem_cons_of_mem first h)
        exact ⟨hsep, List.subset_cons_of_subset c hsubset⟩

/-! ## trimming -/

theorem prefix_dropEndWhile (p : Char → Bool) (s : List Char) : dropEndWhile p s <+: s := by
  have hsuffix : s.reverse.dropWhile p <:+ s.reverse := List.dropWhile_suffix p
  simpa [dropEndWhile] using List.reverse_prefix.2 hsuffix

/-- Nothing before a character that is not trimmed is trimmed from the end. -/
theorem dropEndWhile_append_cons {p : Char → Bool} {c : Char} (h : p c = false) :
    dropEndWhile p (a ++ c :: s) = a ++ c :: dropEndWhile p s := by
  simp [dropEndWhile, List.dropWhile_append, h]

end NarIndex.Text
