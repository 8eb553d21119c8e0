import NarIndex.Catalog.Value
import NarIndex.Error.Driver

/-!
# NarIndex.Catalog.Total

Values added up.  A sum of integers is an integer, and fails if it leaves the range of 64 bits, even
on the way.  Once another value is among them the sum is a floating-point number, which cannot leave
its range; a text then counts as the number at its front.
-/

namespace NarIndex.Catalog

open NarIndex.Number

/-! ## floating-point sums -/

/-- A floating-point sum, with what the roundings on the way have taken from it. -/
structure Approximation where
  sum : Float
  missing : Float
  deriving DecidableEq, Repr

namespace Approximation

/-- One more number in a sum. -/
def add (total : Approximation) (x : Float) : Approximation :=
  let sum := total.sum + x
  let missing :=
    if x.abs < total.sum.abs then (total.sum - sum) + x else (x - sum) + total.sum
  ⟨sum, total.missing + missing⟩

/-- Whether an integer has few enough bits to be a floating-point number for sure. -/
def isShort (n : Int) : Bool :=
  n.natAbs < 4503599627370496

/-- The last 14 bits of an integer, with its sign. -/
def lowPart (n : Int) : Int :=
  n.tmod 16384

/-- One more integer in a sum; one with many bits is added in two parts. -/
def addInt (total : Approximation) (n : Int) : Approximation :=
  if isShort n then total.add (.ofInt n)
  else (total.add (.ofInt (n - lowPart n))).add (.ofInt (lowPart n))

/-- An integer that a sum goes on from. -/
def ofInt (n : Int) : Approximation :=
  if isShort n then ⟨.ofInt n, 0⟩ else ⟨.ofInt (n - lowPart n), .ofInt (lowPart n)⟩

/-- The sum with what is missing from it; nothing, if it is not a number. -/
def value? (total : Approximation) : Option Float :=
  let x := if total.missing.isFinite then total.sum + total.missing else total.sum
  if x.isNaN then none else some x

end Approximation

/-! ## sums -/

/-- A sum as far as it has come. -/
inductive Total where
  /-- The values were integers, and so is the sum. -/
  | exact (sum : Int)
  /-- The values were integers, and the sum is too large. -/
  | overflown (sum : Approximation)
  /-- There were other values than integers. -/
  | rounded (sum : Approximation)
  deriving DecidableEq, Repr

namespace Total

/-- One more integer in a sum. -/
def addInt (total : Total) (n : Int) : Total :=
  match total with
  | .exact sum =>
    if minInteger ≤ sum + n ∧ sum + n ≤ maxInteger then .exact (sum + n)
    else .overflown ((Approximation.ofInt sum).addInt n)
  | .overflown sum => .overflown (sum.addInt n)
  | .rounded sum => .rounded (sum.addInt n)

/-- One more floating-point number in a sum, which need not be exact any more. -/
def addFloat (total : Total) (x : Float) : Total :=
  match total with
  | .exact sum => .rounded ((Approximation.ofInt sum).add x)
  | .overflown sum => .rounded (sum.add x)
  | .rounded sum => .rounded (sum.add x)

/-- One more value in a sum. -/
def add (total : Total) : Value → Total
  | .integer n => total.addInt n
  | .real x => total.addFloat x
  | .text s =>
    total.addFloat (((Numeral.readFront? s.toList).map (·.1.toFloat)).getD 0)

/-- What a sum has come to; nothing, if it is not a number. -/
def value : Total → Except DriverError (Option Value)
  | .exact sum => .ok (some (.integer sum))
  | .overflown _ => .error .sumOverflowed
  | .rounded sum => .ok (sum.value?.map .real)

@[simp] theorem value_exact (sum : Int) : (exact sum).value = .ok (some (.integer sum)) :=
  rfl

/-- A sum of integers stays exact as long as it can be held. -/
theorem add_integer {sum n : Int} (low : minInteger ≤ sum + n) (high : sum + n ≤ maxInteger) :
    (exact sum).add (.integer n) = .exact (sum + n) :=
  if_pos ⟨low, high⟩

end Total

/-- The sum of some values, added up in their order; there is none of no values. -/
def sum : List Value → Except DriverError (Option Value)
  | [] => .ok none
  | values => (values.foldl Total.add (.exact 0)).value

/-- The sums of the values up to each place, beginning with a total. -/
def runningSums (total : Total) : List Value → Except DriverError (List (Option Value))
  | [] => .ok []
  | value :: values => do
    let total := total.add value
    return (← total.value) :: (← runningSums total values)

end NarIndex.Catalog
