import NarIndex.Number.Numeral
import NarIndex.Text.Order

/-!
# NarIndex.Catalog.Value

What a column of integers holds.  That is an integer as a rule, but a column takes any text: one
that is written like a number is kept as this number, and any other one as it is.  Numbers are
ordered by their size and come before texts.
-/

namespace NarIndex.Catalog

open NarIndex.Number

def minInteger : Int := -9223372036854775808

def maxInteger : Int := 9223372036854775807

/-- A value in a column of integers. -/
inductive Value where
  | integer (n : Int)
  | real (x : Float)
  | text (s : String)
  deriving DecidableEq, Repr

namespace Value

/-! ## storing -/

/-- A floating-point number as it is kept: as an integer if it is one, strictly between the two ends
of the range. -/
def ofFloat (x : Float) : Value :=
  let n := x.toModel.unpack.toInt minInteger maxInteger
  if minInteger < n ∧ n < maxInteger ∧ Float.ofInt n == x then .integer n else .real x

/-- A numeral as it is kept: exactly if it is a whole number in the range. -/
def ofNumeral (n : Numeral) : Value :=
  if n.isWhole ∧ minInteger ≤ n.toInt ∧ n.toInt ≤ maxInteger then .integer n.toInt
  else ofFloat n.toFloat

/-- A text as it is kept. -/
def ofText (s : String) : Value :=
  match Numeral.read? s.toList with
  | some n => ofNumeral n
  | none => .text s

/-! ## order -/

/-- Whether a value comes before another one or is equal to it. -/
def le : Value → Value → Bool
  | .integer a, .integer b => a ≤ b
  | .text a, .text b => Text.le a b
  | .text _, _ => false
  | _, .text _ => true
  | .integer a, .real b => (Extended.ofInt a).le (Extended.ofFloat b)
  | .real a, .integer b => (Extended.ofFloat a).le (Extended.ofInt b)
  | .real a, .real b => a ≤ b

def lt (a b : Value) : Bool :=
  !b.le a

@[simp] theorem le_integer (a b : Int) : (integer a).le (integer b) = decide (a ≤ b) :=
  rfl

@[simp] theorem lt_integer (a b : Int) : (integer a).lt (integer b) = decide (a < b) := by
  simp only [lt, le_integer, ← decide_not, Int.not_le]

end Value

/-- Whether a row comes first, going by a value and, of two rows with the same value, by the id. -/
def comesFirst (a b : Value × Int) : Bool :=
  a.1.le b.1 && (!b.1.le a.1 || a.2 ≤ b.2)

end NarIndex.Catalog
