import NarIndex.Text.Digits

/-!
# NarIndex.Url.Ipv6

IPv6 addresses: eight pieces of 16 bits.  They are read from groups of hexadecimal digits, of which
`::` stands for as many zeros as are missing and the last two may be written as an IPv4 address, and
written with the longest run of zeros shortened to `::`.
-/

namespace NarIndex.Url.Ipv6

open NarIndex.Text

/-! ## reading -/

/-- The number that up to `limit` hexadecimal digits at the front spell, and the text behind
them. -/
def readHex : (limit value : Nat) → List Char → Nat × List Char
  | 0, value, s => (value, s)
  | _ + 1, value, [] => (value, [])
  | limit + 1, value, c :: s =>
    match hexValue? c with
    | some d => readHex limit (value * 16 + d) s
    | none => (value, c :: s)

/-- The decimal number, without a leading zero and at most 255, that the digits at the front
spell. -/
def readByte? (s : List Char) : Option (Nat × List Char) :=
  let digits := s.takeWhile Char.isDigit
  let value := decimal digits
  if digits = [] ∨ (digits.head? = some '0' ∧ digits ≠ ['0']) ∨ 255 < value then none
  else some (value, s.dropWhile Char.isDigit)

/-- A point and the number behind it. -/
def readPointByte? : List Char → Option (Nat × List Char)
  | [] => none
  | c :: s => if c = '.' then readByte? s else none

/-- The two pieces that an IPv4 address at the end spells. -/
def readIpv4? (s : List Char) : Option (List Nat) := do
  let (a, s) ← readByte? s
  let (b, s) ← readPointByte? s
  let (c, s) ← readPointByte? s
  let (d, s) ← readPointByte? s
  if s.isEmpty then some [a * 256 + b, c * 256 + d] else none

/-- Pieces read so far, and how many of them come before the missing zeros. -/
structure Groups where
  pieces : List Nat
  gap : Option Nat

/-- The groups at the front.  Behind a group come the end, a colon with another group, or a second
colon, which counts as a piece of its own and marks the place of the missing zeros. -/
def readGroups : (fuel : Nat) → Groups → List Char → Option Groups
  | _, groups, [] => some groups
  | 0, _, _ :: _ => none
  | fuel + 1, groups, c :: s =>
    if groups.pieces.length = 8 then none
    else if c = ':' then
      if groups.gap.isSome then none
      else readGroups fuel ⟨groups.pieces ++ [0], some (groups.pieces.length + 1)⟩ s
    else
      let (value, rest) := readHex 4 0 (c :: s)
      match rest with
      | [] => some ⟨groups.pieces ++ [value], groups.gap⟩
      | d :: rest =>
        if d = ':' then
          if rest.isEmpty then none else readGroups fuel ⟨groups.pieces ++ [value], groups.gap⟩ rest
        else if d = '.' then
          if 6 < groups.pieces.length then none
          else (readIpv4? (c :: s)).map fun last => ⟨groups.pieces ++ last, groups.gap⟩
        else none

/-- The eight pieces of groups: zeros fill the gap, and without a gap nothing may be missing. -/
def Groups.complete? (groups : Groups) : Option (List Nat) :=
  let missing := 8 - groups.pieces.length
  match groups.gap with
  | some place =>
    some (groups.pieces.take place ++ List.replicate missing 0 ++ groups.pieces.drop place)
  | none => if missing = 0 then some groups.pieces else none

/-- The address that a text spells. -/
def parse? (s : List Char) : Option (List Nat) := do
  let groups ← match s with
    | ':' :: ':' :: rest => readGroups rest.length ⟨[0], some 1⟩ rest
    | ':' :: _ => none
    | [] => none
    | [_] => none
    | s => readGroups s.length ⟨[], none⟩ s
  groups.complete?

/-! ## writing -/

/-- The place and length of the longest run of at least two zeros, the first one of several. -/
def longestZeros (pieces : List Nat) : Option (Nat × Nat) :=
  (List.range pieces.length).foldl (fun best start =>
    let length := ((pieces.drop start).takeWhile (· == 0)).length
    match best with
    | some (_, most) => if most < length then some (start, length) else best
    | none => if 2 ≤ length then some (start, length) else none) none

/-- Pieces with a colon between neighbours. -/
def writePieces (pieces : List Nat) : List Char :=
  List.intercalate [':'] (pieces.map (Nat.toDigits 16))

/-- An address as text. -/
def write (pieces : List Nat) : List Char :=
  match longestZeros pieces with
  | some (start, length) =>
    writePieces (pieces.take start) ++ [':', ':'] ++ writePieces (pieces.drop (start + length))
  | none => writePieces pieces

end NarIndex.Url.Ipv6
