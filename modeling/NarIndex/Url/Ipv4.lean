import NarIndex.Text.Digits
import NarIndex.Text.Split

/-!
# NarIndex.Url.Ipv4

IPv4 addresses as the hosts of special schemes spell them: one to four numbers with points between
them, in decimal, octal (`0…`) or hexadecimal (`0x…`), of which the last one fills all bytes that
the ones before it leave.  An address is kept as one number and written as four decimal bytes.
-/

namespace NarIndex.Url.Ipv4

open NarIndex.Text

/-! ## reading -/

/-- The number that digits of a radix spell; no digits spell zero. -/
def digits? (radix : Nat) (s : List Char) : Option Nat :=
  s.foldlM (fun value c => ((hexValue? c).filter (· < radix)).map (value * radix + ·)) 0

/-- The number that a part of an address spells. -/
def number? : List Char → Option Nat
  | [] => none
  | '0' :: c :: s => if c = 'x' ∨ c = 'X' then digits? 16 s else digits? 8 (c :: s)
  | s => digits? 10 s

/-- The parts of a host between its points, without an empty last one. -/
def parts (s : List Char) : List (List Char) :=
  let pieces := splitOn '.' s
  if pieces.getLast? = some [] then pieces.dropLast else pieces

/-- Whether a host has to be read as an address: its last part is made of digits, or is a number
in another radix. -/
def endsInNumber (s : List Char) : Bool :=
  match (parts s).getLast? with
  | none => false
  | some last => (!last.isEmpty && last.all Char.isDigit) || (number? last).isSome

/-- The address that a host spells. -/
def parse? (s : List Char) : Option Nat := do
  let numbers ← (parts s).mapM number?
  let last ← numbers.getLast?
  let bytes := numbers.dropLast
  let shift := Nat.pow 256 (4 - bytes.length)
  if bytes.length ≤ 3 ∧ (∀ b ∈ bytes, b ≤ 255) ∧ last < shift then
    some (bytes.foldl (fun value b => value * 256 + b) 0 * shift + last)
  else none

/-! ## writing -/

def write (address : Nat) : List Char :=
  joinWith ['.'] ([24, 16, 8, 0].map fun shift => Nat.toDigits 10 (address >>> shift % 256))

end NarIndex.Url.Ipv4
