/-!
# NarIndex.Text.Table

Tables that give texts for code points.  An entry starts at a code point and holds what this one and
those behind it stand for, one after the other; the entries are ascending.
-/

namespace NarIndex.Text

/-- A table that gives one character for each code point. -/
abbrev LetterTable := List (Nat × String)

/-- A table that gives a text for each code point. -/
abbrev TextTable := List (Nat × List String)

/-- The character that a code point stands for. -/
def LetterTable.image? : LetterTable → Nat → Option Char
  | [], _ => none
  | (first, letters) :: entries, n =>
    if n < first then none
    else match letters.toList[n - first]? with
      | some letter => some letter
      | none => image? entries n

/-- The text that a code point stands for. -/
def TextTable.image? : TextTable → Nat → Option (List Char)
  | [], _ => none
  | (first, texts) :: entries, n =>
    if n < first then none
    else match texts[n - first]? with
      | some text => some text.toList
      | none => image? entries n

end NarIndex.Text
