import NarIndex.Text.CombiningClass
import NarIndex.Text.Composition
import NarIndex.Text.Decomposition

/-!
# NarIndex.Text.Normal

One spelling for texts that mean the same (normalization form C).  A text is taken apart into
letters and marks, the marks of each letter are put into the order of their classes, and whatever
can be written as one character is.
-/

namespace NarIndex.Text

/-! ## taking apart -/

/-- A character taken apart, one step far. -/
def separate (c : Char) : List Char :=
  match standsFor? c.toNat with
  | some characters => characters
  | none => (parts? c).elim [c] fun (base, mark) => [base, mark]

/-- A text taken apart.  No character takes more than three steps. -/
def separateAll (s : List Char) : List Char :=
  ((s.flatMap separate).flatMap separate).flatMap separate

/-! ## ordering marks -/

/-- A character put before an ordered text, behind those of its marks that have a lower class. -/
def insertMark (c : Char) : List Char → List Char
  | [] => [c]
  | d :: s =>
    if 0 < combiningClass d ∧ combiningClass d < combiningClass c then d :: insertMark c s
    else c :: d :: s

/-- A text with the marks of each letter in the order of their classes. -/
def orderMarks (s : List Char) : List Char :=
  s.foldr insertMark []

/-! ## putting together -/

/-- Whether a character joins a letter that marks already stand behind: the last of them has to be
of a lower class. -/
def reaches (marks : List Char) (c : Char) : Bool :=
  match marks.getLast? with
  | none => true
  | some mark => combiningClass mark < combiningClass c

/-- A letter with the marks behind it, and the rest of an ordered text, put together. -/
def combineFrom (letter : Char) (marks : List Char) : List Char → List Char
  | [] => letter :: marks
  | c :: s =>
    match if reaches marks c then composite? letter c else none with
    | some whole => combineFrom whole marks s
    | none =>
      if combiningClass c = 0 then letter :: marks ++ combineFrom c [] s
      else combineFrom letter (marks ++ [c]) s

/-- An ordered text put together; marks without a letter stay as they are. -/
def combine (s : List Char) : List Char :=
  let marks := s.takeWhile (0 < combiningClass ·)
  match s.dropWhile (0 < combiningClass ·) with
  | [] => marks
  | letter :: rest => marks ++ combineFrom letter [] rest

/-- The normal form of a text. -/
def normal (s : List Char) : List Char :=
  combine (orderMarks (separateAll s))

end NarIndex.Text
