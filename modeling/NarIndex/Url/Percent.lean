import NarIndex.Text.Digits
import NarIndex.Text.Utf8

/-!
# NarIndex.Url.Percent

Percent-encoding.  Each component of a URL has its own set of ASCII characters that have to be
written as `%XX`; every other character outside ASCII is written so too, byte by byte of its UTF-8
form.
-/

namespace NarIndex.Url

open NarIndex.Text

/-! ## sets -/

/-- The control characters of ASCII. -/
def isControl (c : Char) : Bool :=
  c.toNat < 0x20 || c.toNat == 0x7F

/-- Characters escaped in a fragment. -/
def inFragmentSet (c : Char) : Bool :=
  isControl c || [' ', '"', '<', '>', '\x60'].contains c

/-- Characters escaped in a path. -/
def inPathSet (c : Char) : Bool :=
  inFragmentSet c || ['#', '?', '\x7b', '\x7d'].contains c

/-- Characters escaped in a user name or a password. -/
def inUserinfoSet (c : Char) : Bool :=
  inPathSet c || ['/', ':', ';', '=', '@', '[', '\\', ']', '^', '|'].contains c

/-- Characters escaped in a query. -/
def inQuerySet (c : Char) : Bool :=
  isControl c || [' ', '"', '#', '<', '>'].contains c

/-- Characters escaped in the query of a special scheme. -/
def inSpecialQuerySet (c : Char) : Bool :=
  inQuerySet c || c == '\''

/-! ## writing -/

/-- A byte as `%XX`. -/
def escapeByte (b : UInt8) : List Char :=
  ['%', hexDigit (b.toNat / 16), hexDigit (b.toNat % 16)]

/-- A character, escaped if it is in the set or outside ASCII. -/
def escapeChar (set : Char → Bool) (c : Char) : List Char :=
  if c.toNat < 0x80 && !set c then [c] else (utf8Char c).flatMap escapeByte

/-- A text with the characters of a set, and those outside ASCII, escaped. -/
def escape (set : Char → Bool) (s : List Char) : List Char :=
  s.flatMap (escapeChar set)

@[simp] theorem escape_nil (set : Char → Bool) : escape set [] = [] := rfl

@[simp] theorem escape_append (set : Char → Bool) (s t : List Char) :
    escape set (s ++ t) = escape set s ++ escape set t := by
  simp [escape]

/-! ## reading -/

/-- The value of a hexadecimal digit given as a byte. -/
def byteValue? (b : UInt8) : Option Nat :=
  hexValue? (Char.ofNat b.toNat)

/-- Bytes with each `%XX` replaced by the byte it names; a percent sign that two digits do not
follow stands for itself. -/
def unescape : List UInt8 → List UInt8
  | [] => []
  | b :: bytes =>
    if b = 0x25 then
      match bytes with
      | high :: low :: rest =>
        match byteValue? high, byteValue? low with
        | some h, some l => UInt8.ofNat (16 * h + l) :: unescape rest
        | _, _ => b :: unescape (high :: low :: rest)
      | bytes => b :: unescape bytes
    else b :: unescape bytes
termination_by bytes => bytes.length

end NarIndex.Url
