import NarIndex.Proofs.Text.Split

/-!
# NarIndex.Proofs.Text.Blank

A trimmed text has no character of the class at either end (`isTrimmed_trimWhile`), stands in the
text that it was (`exists_eq_append_trimWhile`), and is trimmed once and for all
(`trimWhile_of_isTrimmed`).
-/

namespace NarIndex.Text

variable {p : Char → Bool} {c : Char} {s : List Char}

/-- A text with no character of a class at either end. -/
structure IsTrimmed (p : Char → Bool) (s : List Char) : Prop where
  front : ∀ c ∈ s.head?, p c = false
  back : ∀ c ∈ s.getLast?, p c = false

theorem dropWhile_of_head? (h : ∀ c ∈ s.head?, p c = false) : s.dropWhile p = s := by
  cases s with
  | nil => rfl
  | cons c s => simp [h c rfl]

theorem of_mem_head?_dropWhile (h : c ∈ (s.dropWhile p).head?) : p c = false := by
  have hstop := List.head?_dropWhile_not p s
  rw [Option.mem_def.1 h] at hstop
  exact hstop

/-- A trimmed text stays as it is. -/
theorem trimWhile_of_isTrimmed (h : IsTrimmed p s) : trimWhile p s = s := by
  rw [trimWhile, dropWhile_of_head? h.front, dropEndWhile, dropWhile_of_head?, List.reverse_reverse]
  rw [List.head?_reverse]
  exact h.back

theorem isTrimmed_trimWhile (p : Char → Bool) (s : List Char) : IsTrimmed p (trimWhile p s) where
  front c hc := by
    obtain ⟨rest, hprefix⟩ := prefix_dropEndWhile p (s.dropWhile p)
    have hhead : c ∈ (s.dropWhile p).head? := by
      rw [← hprefix, ← trimWhile, List.head?_append, Option.mem_def.1 hc]
      rfl
    exact of_mem_head?_dropWhile hhead
  back c hc := by
    rw [trimWhile, dropEndWhile, List.getLast?_reverse] at hc
    exact of_mem_head?_dropWhile hc

/-- A character of the class is trimmed from the front. -/
theorem trimWhile_cons (h : p c = true) (s : List Char) : trimWhile p (c :: s) = trimWhile p s := by
  rw [trimWhile, List.dropWhile_cons_of_pos h, ← trimWhile]

/-- A character of the class is trimmed from the end. -/
theorem trimWhile_concat (h : p c = true) (s : List Char) :
    trimWhile p (s ++ [c]) = trimWhile p s := by
  rw [trimWhile, trimWhile, List.dropWhile_append]
  cases hs : s.dropWhile p with
  | nil => simp [h]
  | cons d rest => simp [dropEndWhile, h]

/-- Only characters of the class are trimmed. -/
theorem exists_eq_append_trimWhile (p : Char → Bool) (s : List Char) :
    ∃ front back, s = front ++ trimWhile p s ++ back ∧ (∀ c ∈ front, p c = true) ∧
      ∀ c ∈ back, p c = true := by
  have hfront := List.takeWhile_append_dropWhile (p := p) (l := s)
  have hback := List.takeWhile_append_dropWhile (p := p) (l := (s.dropWhile p).reverse)
  refine ⟨s.takeWhile p, ((s.dropWhile p).reverse.takeWhile p).reverse, ?_, ?_, ?_⟩
  · rw [List.append_assoc, trimWhile, dropEndWhile, ← List.reverse_append, hback,
      List.reverse_reverse, hfront]
  · exact List.all_eq_true.1 List.all_takeWhile
  · exact fun c hc => List.all_eq_true.1 List.all_takeWhile c (List.mem_reverse.1 hc)

end NarIndex.Text
