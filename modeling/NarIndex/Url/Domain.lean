import NarIndex.Text.Split
import NarIndex.Url.Domain.Direction
import NarIndex.Url.Domain.Joiner
import NarIndex.Url.Domain.Spelling
import NarIndex.Url.Percent
import NarIndex.Url.Punycode

/-!
# NarIndex.Url.Domain

Host names of special schemes.  A name is percent-decoded, brought to its one spelling, and written
in ASCII, label by label.  A label that is in ASCII already has to be what it would be written as.
-/

namespace NarIndex.Url.Domain

open NarIndex.Text

/-- Characters that have a meaning of their own in a URL. -/
def isForbidden (c : Char) : Bool :=
  isControl c || [' ', '#', '%', '/', ':', '<', '>', '?', '@', '[', '\\', ']', '^', '|'].contains c

def isAscii (c : Char) : Bool :=
  c.toNat < 0x80

/-- The mark before labels that stand for others. -/
def mark : List Char :=
  "xn--".toList

/-- The most digits in which a label is written. -/
def maxDigits : Nat :=
  2000

/-- The longest label with characters outside ASCII. -/
def maxLength : Nat :=
  1000

/-- The label that a label stands for: itself, unless the mark is before it. -/
def readLabel? (label : List Char) : Option (List Char) :=
  match dropPrefix? mark label with
  | none => some label
  | some digits =>
    if digits.length ≤ maxDigits ∧ digits.all isAscii then
      (Punycode.decode? digits).filter fun meant =>
        !meant.all isAscii && meant.all isPlain && normal meant == meant
          && (dropPrefix? mark meant).isNone
    else none

/-- Whether a label may stand in a host name. -/
def isSound (label : List Char) : Bool :=
  !label.head?.any (isMark ·.toNat) && joinersFit label
    && (label.all isAscii || label.length ≤ maxLength)

/-- A label in ASCII. -/
def asciiLabel (label : List Char) : List Char :=
  if label.all isAscii then label else mark ++ Punycode.encode label

/-- The labels of a name, none of them in ASCII only to stand for another one. -/
def labels? (name : List Char) : Option (List (List Char)) :=
  ((splitOn '.' name).mapM readLabel?).filter fun labels =>
    labels.all isSound && (!labels.any hasRightToLeft || labels.all hasOneDirection)

/-- The name that a text spells, in ASCII; `none` if no host has this name. -/
def parse? (s : List Char) : Option (List Char) := do
  let bytes := unescape (utf8 s)
  if (utf8Fault? bytes).isSome then none
  else
    let name ← spell? (readUtf8 bytes)
    if name.any isForbidden then none
    else return joinWith ['.'] ((← labels? name).map asciiLabel)

end NarIndex.Url.Domain
