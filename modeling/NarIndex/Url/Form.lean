import NarIndex.Text.Split
import NarIndex.Url.Percent

/-!
# NarIndex.Url.Form

Queries that hold pairs of a name and a value, in the form `name=value&name=value`.  A space is
written as a plus sign, letters, digits and `*-._` as themselves, and every other byte as `%XX`.
-/

namespace NarIndex.Url.Form

open NarIndex.Text

/-- A name and a value. -/
abbrev Pair := List Char × List Char

/-! ## writing -/

/-- Whether a byte is written as the character it is. -/
def isPlain (b : UInt8) : Bool :=
  let n := b.toNat
  (0x30 ≤ n && n ≤ 0x39) || (0x41 ≤ n && n ≤ 0x5A) || (0x61 ≤ n && n ≤ 0x7A)
    || n == 0x2A || n == 0x2D || n == 0x2E || n == 0x5F

/-- A byte of a name or a value. -/
def writeByte (b : UInt8) : List Char :=
  if isPlain b then [Char.ofNat b.toNat]
  else if b = 0x20 then ['+']
  else escapeByte b

def writeText (s : List Char) : List Char :=
  (utf8 s).flatMap writeByte

def writePair (pair : Pair) : List Char :=
  writeText pair.1 ++ '=' :: writeText pair.2

/-- Pairs in their order. -/
def write (pairs : List Pair) : List Char :=
  joinWith ['&'] (pairs.map writePair)

/-! ## reading -/

/-- The name or value that a text spells; a plus sign is a space, and ill-formed UTF-8 reads as
U+FFFD. -/
def readText (s : List Char) : List Char :=
  readUtf8 (unescape ((utf8 s).map fun b => if b = 0x2B then 0x20 else b))

/-- The pair that a piece between two ampersands spells; without an equals sign the value is
empty. -/
def readPair (piece : List Char) : Pair :=
  match cut? '=' piece with
  | some (name, value) => (readText name, readText value)
  | none => (readText piece, [])

/-- The pairs of a query, in its order; empty pieces are none. -/
def read (query : List Char) : List Pair :=
  ((splitOn '&' query).filter (!·.isEmpty)).map readPair

/-- The value of the first pair of a name. -/
def first? (name : List Char) (pairs : List Pair) : Option (List Char) :=
  (pairs.find? (·.1 == name)).map (·.2)

end NarIndex.Url.Form
