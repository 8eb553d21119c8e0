import NarIndex.Json
import NarIndex.Text.Split

/-!
# NarIndex.Json.Reader

Reading a JSON document: one value, with white space around it and between its tokens, and nothing
else.  Each reading function returns the value at the front of a text and the text behind it.
-/

namespace NarIndex.Json

open NarIndex.Text

/-! ## tokens -/

/-- The white space of JSON. -/
def isSpace (c : Char) : Bool :=
  c == ' ' || c == '\t' || c == '\n' || c == '\r'

/-- A text without the white space at its front. -/
def skipSpace (s : List Char) : List Char :=
  s.dropWhile isSpace

/-- The digits at the front, at least one. -/
def readDigits (s : List Char) : Option (List Char × List Char) :=
  match s.takeWhile Char.isDigit with
  | [] => none
  | digits => some (digits, s.dropWhile Char.isDigit)

/-- The digits before the point: a zero stands alone. -/
def readInteger : List Char → Option (List Char × List Char)
  | [] => none
  | c :: s =>
    if c = '0' then
      match s with
      | d :: _ => if d.isDigit then none else some (['0'], s)
      | [] => some (['0'], s)
    else readDigits (c :: s)

/-- A fraction, if a point follows. -/
def readFraction : List Char → Option (List Char × List Char)
  | [] => some ([], [])
  | c :: s => if c = '.' then (readDigits s).map fun (t, r) => (c :: t, r) else some ([], c :: s)

/-- A power of ten, if an `e` follows. -/
def readExponent : List Char → Option (List Char × List Char)
  | [] => some ([], [])
  | c :: s =>
    if c = 'e' || c = 'E' then
      match s with
      | [] => none
      | sign :: t =>
        if sign = '+' || sign = '-' then (readDigits t).map fun (u, r) => (c :: sign :: u, r)
        else (readDigits s).map fun (u, r) => (c :: u, r)
    else some ([], c :: s)

/-- A number token without its sign. -/
def readUnsigned (s : List Char) : Option (List Char × List Char) := do
  let (whole, s) ← readInteger s
  let (fraction, s) ← readFraction s
  let (exponent, s) ← readExponent s
  return (whole ++ fraction ++ exponent, s)

/-- A number token. -/
def readNumber : List Char → Option (List Char × List Char)
  | [] => none
  | c :: s =>
    if c = '-' then (readUnsigned s).map fun (t, r) => (c :: t, r) else readUnsigned (c :: s)

/-! ## strings -/

/-- A part of a string: a character, or the number of a `\u` escape, which may be one half of a
character. -/
inductive Piece where
  | char (c : Char)
  | unit (n : Nat)

/-- The value of four hexadecimal digits. -/
def hex4? (a b c d : Char) : Option Nat := do
  return (((← hexValue? a) * 16 + (← hexValue? b)) * 16 + (← hexValue? c)) * 16 + (← hexValue? d)

/-- The character that a one-letter escape names. -/
def escaped? (c : Char) : Option Char :=
  match c with
  | '"' => some '"'
  | '\\' => some '\\'
  | '/' => some '/'
  | 'b' => some '\x08'
  | 'f' => some '\x0c'
  | 'n' => some '\n'
  | 'r' => some '\r'
  | 't' => some '\t'
  | _ => none

/-- The parts of a string up to its closing quote. -/
def readPieces : List Char → Option (List Piece × List Char)
  | [] => none
  | c :: s =>
    if c = '"' then some ([], s)
    else if c = '\\' then
      match s with
      | [] => none
      | e :: s =>
        if e = 'u' then
          match s with
          | a :: b :: c :: d :: s => do
            let n ← hex4? a b c d
            let (pieces, rest) ← readPieces s
            return (.unit n :: pieces, rest)
          | _ => none
        else do
          let c ← escaped? e
          let (pieces, rest) ← readPieces s
          return (.char c :: pieces, rest)
    else if c.toNat < 0x20 then none
    else do
      let (pieces, rest) ← readPieces s
      return (.char c :: pieces, rest)

/-- The text of a string: two escapes that are the halves of a character count as that character,
and no half stands alone. -/
def joinPieces : List Piece → Option (List Char)
  | [] => some []
  | .char c :: pieces => (joinPieces pieces).map (c :: ·)
  | .unit n :: pieces =>
    if 0xD800 ≤ n ∧ n < 0xDC00 then
      match pieces with
      | .unit m :: pieces =>
        if 0xDC00 ≤ m ∧ m < 0xE000 then
          (joinPieces pieces).map (Char.ofNat (0x10000 + (n - 0xD800) * 0x400 + (m - 0xDC00)) :: ·)
        else none
      | _ => none
    else if 0xDC00 ≤ n ∧ n < 0xE000 then none
    else (joinPieces pieces).map (Char.ofNat n :: ·)

/-- A string behind its opening quote. -/
def readText (s : List Char) : Option (Option String × List Char) :=
  (readPieces s).map fun (pieces, rest) => ((joinPieces pieces).map String.ofList, rest)

/-! ## values -/

mutual

/-- A value; `fuel` bounds the nesting and the number of items. -/
def readValue : Nat → List Char → Option (Json × List Char)
  | 0, _ => none
  | _ + 1, [] => none
  | fuel + 1, c :: s =>
    if c = '"' then (readText s).map fun (t, r) => (.text t, r)
    else if c = '[' then
      match skipSpace s with
      | [] => none
      | d :: r =>
        if d = ']' then some (.array [], r)
        else (readItems fuel (d :: r)).map fun (items, r) => (.array items, r)
    else if c = '\x7b' then
      match skipSpace s with
      | [] => none
      | d :: r =>
        if d = '\x7d' then some (.object [], r)
        else (readMembers fuel (d :: r)).map fun (members, r) => (.object members, r)
    else if c = 'n' then (dropPrefix? "ull".toList s).map (.null, ·)
    else if c = 't' then (dropPrefix? "rue".toList s).map (.bool true, ·)
    else if c = 'f' then (dropPrefix? "alse".toList s).map (.bool false, ·)
    else (readNumber (c :: s)).map fun (token, r) => (.number token, r)

/-- The items of an array, at least one, up to its bracket. -/
def readItems : Nat → List Char → Option (List Json × List Char)
  | 0, _ => none
  | fuel + 1, s => do
    let (item, s) ← readValue fuel (skipSpace s)
    match skipSpace s with
    | [] => none
    | d :: r =>
      if d = ']' then return ([item], r)
      else if d = ',' then
        let (items, r) ← readItems fuel r
        return (item :: items, r)
      else none

/-- The members of an object, at least one, up to its brace. -/
def readMembers : Nat → List Char → Option (List (Option String × Json) × List Char)
  | 0, _ => none
  | fuel + 1, s => do
    let (name, s) ← match skipSpace s with
      | [] => none
      | d :: r => if d = '"' then readText r else none
    let s ← match skipSpace s with
      | [] => none
      | d :: r => if d = ':' then some r else none
    let (value, s) ← readValue fuel (skipSpace s)
    match skipSpace s with
    | [] => none
    | d :: r =>
      if d = '\x7d' then return ([(name, value)], r)
      else if d = ',' then
        let (members, r) ← readMembers fuel r
        return ((name, value) :: members, r)
      else none

end

/-- The value of a document.  Reading a value or a list of values takes at most two steps for each
character. -/
def read? (document : String) : Option Json := do
  let s := skipSpace document.toList
  let (value, rest) ← readValue (2 * s.length + 2) s
  if (skipSpace rest).isEmpty then some value else none

end NarIndex.Json
