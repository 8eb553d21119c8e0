import NarIndex.Number.Extended
import NarIndex.Text.Blank
import NarIndex.Text.Digits

/-!
# NarIndex.Number.Numeral

Numbers as they are written in decimal, and the floating-point number that each of them stands for.
-/

namespace NarIndex.Number

open NarIndex.Text

/-- A number as it is written in decimal: `digits * 10 ^ exponent`, with a sign. -/
structure Numeral where
  isNegative : Bool
  digits : Nat
  exponent : Int
  /-- Whether it is written without a point and without an exponent. -/
  isWhole : Bool
  deriving DecidableEq, Repr

/-! ## reading -/

/-- White space around a numeral. -/
def isSurrounding (c : Char) : Bool :=
  c.toNat == 0x20 || (0x09 ≤ c.toNat && c.toNat ≤ 0x0D)

/-- A sign at the front, and what stands behind it; without one the number is positive. -/
def readSign : List Char → Bool × List Char
  | '-' :: s => (true, s)
  | '+' :: s => (false, s)
  | s => (false, s)

/-- The number that the digits of an exponent spell; of one with more than five digits it does not
matter how large it is. -/
def exponentOf (digits : List Char) : Nat :=
  digits.foldl (fun n c => if n < 10000 then n * 10 + (c.toNat - '0'.toNat) else 10000) 0

/-- The exponent at the front, if there is one, and what stands behind it. -/
def readExponent? : List Char → Option (Int × List Char)
  | [] => none
  | c :: s =>
    let (isNegative, s) := readSign s
    let digits := s.takeWhile Char.isDigit
    if (c = 'e' ∨ c = 'E') ∧ digits ≠ [] then
      let n : Int := exponentOf digits
      some (if isNegative then -n else n, s.dropWhile Char.isDigit)
    else none

/-- The numeral at the front of a text, if there is one, and what stands behind it. -/
def Numeral.readFront? (s : List Char) : Option (Numeral × List Char) :=
  let (isNegative, s) := readSign (s.dropWhile isSurrounding)
  let whole := s.takeWhile Char.isDigit
  let s := s.dropWhile Char.isDigit
  let (hasPoint, s) := match s with
    | '.' :: s => (true, s)
    | s => (false, s)
  let fraction := if hasPoint then s.takeWhile Char.isDigit else []
  let s := if hasPoint then s.dropWhile Char.isDigit else s
  if whole ++ fraction = [] then none
  else
    let digits := decimal (whole ++ fraction)
    match readExponent? s with
    | some (exponent, s) => some (⟨isNegative, digits, exponent - fraction.length, false⟩, s)
    | none => some (⟨isNegative, digits, -fraction.length, !hasPoint⟩, s)

/-- The numeral that a text is, white space around it aside. -/
def Numeral.read? (s : List Char) : Option Numeral :=
  match Numeral.readFront? s with
  | some (numeral, rest) => if rest.all isSurrounding then some numeral else none
  | none => none

/-! ## values -/

/-- A number with as many of its digits as count, and how many are left out behind them: no more
count than are needed to reach a tenth of the range of 64 bits. -/
def leadingDigits (n : Nat) : Nat × Nat :=
  if 1844674407370955160 ≤ n / 10 then
    let (leading, dropped) := leadingDigits (n / 10)
    (leading, dropped + 1)
  else (n, 0)
termination_by n
decreasing_by omega

/-- A number times a power of ten, multiplied out as far as 64 bits allow, and what is left of the
exponent. -/
def raised (n : Nat) : Nat → Nat × Nat
  | 0 => (n, 0)
  | exponent + 1 =>
    if n < 1844674407370954956 then raised (n * 10) exponent else (n, exponent + 1)

/-- A number divided by a power of ten, as far as it ends in zeros, and what is left of the
exponent. -/
def lowered (n : Nat) : Nat → Nat × Nat
  | 0 => (n, 0)
  | exponent + 1 => if n % 10 = 0 then lowered (n / 10) exponent else (n, exponent + 1)

/-- The size of a number that is given in decimal. -/
def magnitude (digits : Nat) (exponent : Int) : Float :=
  let (digits, dropped) := leadingDigits digits
  let exponent := exponent + dropped
  let (digits, exponent) :=
    if exponent < 0 then
      let (digits, exponent) := lowered digits exponent.natAbs
      (digits, -(exponent : Int))
    else
      let (digits, exponent) := raised digits exponent.natAbs
      (digits, (exponent : Int))
  ((Extended.ofInt digits).scaled exponent).toFloat

namespace Numeral

/-- The integer that the digits of a numeral spell. -/
def toInt (n : Numeral) : Int :=
  if n.isNegative then -(n.digits : Int) else n.digits

/-- The floating-point number that a numeral stands for. -/
def toFloat (n : Numeral) : Float :=
  let size := magnitude n.digits n.exponent
  if n.isNegative then -size else size

end Numeral

end NarIndex.Number
