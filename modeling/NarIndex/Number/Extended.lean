/-!
# NarIndex.Number.Extended

Numbers of extended precision: 64 bits, and an exponent of 15 bits.  Every 64-bit integer and every
floating-point number of double precision is among them as it is, so that the two kinds can be
compared here without loss, and decimal numbers scaled with bits to spare.
-/

namespace NarIndex.Number

open Float.Model

/-- A number of extended precision. -/
abbrev Extended := UnpackedFloat

namespace Extended

/-- Extended precision; the first of the 64 bits is implied. -/
def format : Format :=
  { mantissaBitsWithoutImplicit := 63, exponentBits := 15 }

/-! ## between the precisions -/

/-- An integer, rounded if it has more than 64 bits. -/
def ofInt (n : Int) : Extended :=
  UnpackedFloat.ofInt format n

/-- A number of double precision. -/
def ofFloat (x : Float) : Extended :=
  match x.toModel.unpack with
  | .finite sign significand exponent _ => .round format sign significand exponent
  | special => special

/-- The largest finite number of double precision. -/
def largestFloat : Extended :=
  ofFloat (.ofBits 0x7FEFFFFFFFFFFFFF)

/-- A number that is not negative, rounded to double precision.  What is beyond the largest finite
number is infinite, however little it is beyond. -/
def toFloat (x : Extended) : Float :=
  if UnpackedFloat.le x largestFloat then
    match x with
    | .finite sign significand exponent _ =>
      .ofModel (pack (.round .binary64 sign significand exponent))
    | special => .ofModel (pack special)
  else .ofModel (pack (.infinity .positive))

/-! ## scaling -/

def mul (a b : Extended) : Extended :=
  UnpackedFloat.mul format a b

/-- A number times a power of ten, which is taken in steps: hundreds, tens and ones of the exponent.
Each step rounds. -/
def scaled (x : Extended) (exponent : Int) : Extended :=
  let power (n : Int) : Extended :=
    UnpackedFloat.ofScientific format 1 (if exponent < 0 then -n else n)
  let n := exponent.natAbs
  let x := Nat.repeat (mul (power 100)) (n / 100) x
  let x := Nat.repeat (mul (power 10)) (n % 100 / 10) x
  Nat.repeat (mul (power 1)) (n % 10) x

end Extended

end NarIndex.Number
