/-!
# NarIndex.Text.Split

Cutting a text at a separator character, and looking for a text inside another one.
-/

namespace NarIndex.Text

/-! ## cutting -/

/-- The pieces of a text between the occurrences of a separator.  A text without the separator is
one piece; a text of `n` separators has `n + 1`. -/
def splitOn (sep : Char) : List Char → List (List Char)
  | [] => [[]]
  | c :: s =>
    if c = sep then [] :: splitOn sep s
    else match splitOn sep s with
      | [] => [[c]]
      | piece :: pieces => (c :: piece) :: pieces

theorem splitOn_ne_nil (sep : Char) (s : List Char) : splitOn sep s ≠ [] := by
  cases s with
  | nil => simp [splitOn]
  | cons c s => simp only [splitOn]; split <;> (try split) <;> simp

/-- Pieces put together again with a separator between neighbours. -/
def joinWith (sep : List Char) : List (List Char) → List Char
  | [] => []
  | [piece] => piece
  | piece :: pieces => piece ++ sep ++ joinWith sep pieces

/-- The text before the first occurrence of a separator and the text behind it. -/
def cut? (sep : Char) : List Char → Option (List Char × List Char)
  | [] => none
  | c :: s => if c = sep then some ([], s) else (cut? sep s).map fun (a, b) => (c :: a, b)

/-- The text before the last occurrence of a separator and the text behind it. -/
def cutLast? (sep : Char) : List Char → Option (List Char × List Char)
  | [] => none
  | c :: s =>
    match cutLast? sep s with
    | some (a, b) => some (c :: a, b)
    | none => if c = sep then some ([], s) else none

theorem eq_append_of_cut? {sep : Char} {s a b : List Char} (h : cut? sep s = some (a, b)) :
    s = a ++ sep :: b := by
  induction s generalizing a with
  | nil => simp [cut?] at h
  | cons c s ih =>
    simp only [cut?] at h
    split at h
    · simp_all
    · obtain ⟨⟨a', b'⟩, hs, hab⟩ := Option.map_eq_some_iff.1 h
      simp only [Prod.mk.injEq] at hab
      obtain ⟨rfl, rfl⟩ := hab
      simp [ih hs]

/-- A text without the given beginning, if it has it. -/
def dropPrefix? : List Char → List Char → Option (List Char)
  | [], s => some s
  | _ :: _, [] => none
  | p :: ps, c :: s => if p = c then dropPrefix? ps s else none

/-! ## searching -/

/-- Whether one text stands somewhere in another. -/
def occursIn (needle : List Char) : List Char → Bool
  | [] => needle.isEmpty
  | c :: s => needle.isPrefixOf (c :: s) || occursIn needle s

/-- A text with the first occurrence of `old` (not empty) replaced. -/
def replaceFirst (old new : List Char) : List Char → List Char
  | [] => []
  | c :: s =>
    match dropPrefix? old (c :: s) with
    | some rest => new ++ rest
    | none => c :: replaceFirst old new s

end NarIndex.Text
