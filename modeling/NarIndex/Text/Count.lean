import NarIndex.Text.Digits

/-!
# NarIndex.Text.Count

Texts that have to be a number within a range: decimal digits, with at most a plus sign before them.
-/

namespace NarIndex.Text

/-- Why a text is not a number of a range. -/
inductive CountFault where
  | empty
  | invalidDigit
  | tooLarge
  deriving DecidableEq, Repr

/-- The wording of a fault. -/
def CountFault.message : CountFault → String
  | .empty => "cannot parse integer from empty string"
  | .invalidDigit => "invalid digit found in string"
  | .tooLarge => "number too large to fit in target type"

/-- The number that digits spell behind a number read so far; the first fault counts. -/
def readDigits (most : Nat) (n : Nat) : List Char → Except CountFault Nat
  | [] => .ok n
  | c :: s =>
    if !c.isDigit then .error .invalidDigit
    else
      let n := n * 10 + (c.toNat - '0'.toNat)
      if most < n then .error .tooLarge else readDigits most n s

/-- The number that a text spells, if it is not above `most`. -/
def readCount (most : Nat) : List Char → Except CountFault Nat
  | [] => .error .empty
  | ['+'] => .error .invalidDigit
  | '+' :: s => readDigits most 0 s
  | s => readDigits most 0 s

end NarIndex.Text
