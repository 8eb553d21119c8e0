/-!
# NarIndex.Text.Case

Lower case.  `toLower` changes the letters A to Z only.  `foldCase` is what lower-casing a text in
full Unicode does as far as its ASCII characters show it: apart from A to Z, only U+212A (Kelvin
sign) and U+0130 (capital I with dot above) have a lower case with an ASCII letter in it, so a
search for an ASCII text finds the same in both.
-/

namespace NarIndex.Text

/-- A text with A to Z in lower case. -/
def toLower (s : List Char) : List Char :=
  s.map Char.toLower

/-- The lower case of one character, as far as it has ASCII letters. -/
def foldChar (c : Char) : List Char :=
  if c = '\u212A' then ['k']
  else if c = '\u0130' then ['i', '\u0307']
  else [c.toLower]

/-- The lower case of a text, as far as it has ASCII letters. -/
def foldCase (s : List Char) : List Char :=
  s.flatMap foldChar

@[simp] theorem foldCase_append (s t : List Char) :
    foldCase (s ++ t) = foldCase s ++ foldCase t := by
  simp [foldCase]

end NarIndex.Text
