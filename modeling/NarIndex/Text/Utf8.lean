/-!
# NarIndex.Text.Utf8

The UTF-8 bytes of a text, and the text that a byte sequence spells.  Reading never fails: where
the bytes are ill-formed, the longest well-formed beginning of a character (or, if there is none,
one byte) is read as U+FFFD, and reading goes on behind it.  Where ill-formed bytes are not
admitted, `utf8Fault?` finds the first of them.
-/

namespace NarIndex.Text

/-! ## writing -/

/-- The UTF-8 bytes of one character. -/
def utf8Char (c : Char) : List UInt8 :=
  let n := c.toNat
  if n < 0x80 then [UInt8.ofNat n]
  else if n < 0x800 then [UInt8.ofNat (0xC0 + n / 0x40), UInt8.ofNat (0x80 + n % 0x40)]
  else if n < 0x10000 then
    [UInt8.ofNat (0xE0 + n / 0x1000), UInt8.ofNat (0x80 + n / 0x40 % 0x40),
      UInt8.ofNat (0x80 + n % 0x40)]
  else
    [UInt8.ofNat (0xF0 + n / 0x40000), UInt8.ofNat (0x80 + n / 0x1000 % 0x40),
      UInt8.ofNat (0x80 + n / 0x40 % 0x40), UInt8.ofNat (0x80 + n % 0x40)]

def utf8 (s : List Char) : List UInt8 :=
  s.flatMap utf8Char

@[simp] theorem utf8_nil : utf8 [] = [] := rfl

@[simp] theorem utf8_cons (c : Char) (s : List Char) : utf8 (c :: s) = utf8Char c ++ utf8 s := rfl

@[simp] theorem utf8_append (s t : List Char) : utf8 (s ++ t) = utf8 s ++ utf8 t := by
  simp [utf8]

/-! ## reading -/

/-- The character that stands for ill-formed bytes. -/
def replacement : Char := '\uFFFD'

/-- For a byte that begins a character of more than one byte, the range of each byte that has to
follow it; `none` for every other byte. -/
def followers (lead : UInt8) : Option (List (Nat × Nat)) :=
  let n := lead.toNat
  let any := (0x80, 0xBF)
  if n < 0xC2 then none
  else if n < 0xE0 then some [any]
  else if n = 0xE0 then some [(0xA0, 0xBF), any]
  else if n = 0xED then some [(0x80, 0x9F), any]
  else if n < 0xF0 then some [any, any]
  else if n = 0xF0 then some [(0x90, 0xBF), any, any]
  else if n < 0xF4 then some [any, any, any]
  else if n = 0xF4 then some [(0x80, 0x8F), any, any]
  else none

/-- The bytes at the front that lie in the given ranges, range by range. -/
def leadingIn : List (Nat × Nat) → List UInt8 → List UInt8
  | (low, high) :: ranges, b :: bytes =>
    if low ≤ b.toNat ∧ b.toNat ≤ high then b :: leadingIn ranges bytes else []
  | _, _ => []

/-- The character with the given first byte and following bytes. -/
def assemble (lead : UInt8) (tail : List UInt8) : Char :=
  let top := match tail.length with
    | 1 => lead.toNat % 0x20
    | 2 => lead.toNat % 0x10
    | _ => lead.toNat % 0x08
  Char.ofNat (tail.foldl (fun n b => n * 0x40 + b.toNat % 0x40) top)

/-- The text that a byte sequence spells, ill-formed places read as `replacement`. -/
def readUtf8 : List UInt8 → List Char
  | [] => []
  | b :: bytes =>
    match followers b with
    | none => (if b.toNat < 0x80 then Char.ofNat b.toNat else replacement) :: readUtf8 bytes
    | some ranges =>
      let tail := leadingIn ranges bytes
      (if tail.length = ranges.length then assemble b tail else replacement) ::
        readUtf8 (bytes.drop tail.length)
termination_by bytes => bytes.length
decreasing_by
  · simp
  · simp only [List.length_drop, List.length_cons]; omega

@[simp] theorem readUtf8_nil : readUtf8 [] = [] := by
  simp [readUtf8]

/-! ## faults -/

/-- What is wrong with bytes from an index on. -/
inductive Utf8Fault where
  | invalid (length index : Nat)
  /-- The bytes end within a character. -/
  | incomplete (index : Nat)
  deriving DecidableEq, Repr

/-- The wording of a fault. -/
def Utf8Fault.message : Utf8Fault → String
  | .invalid length index =>
    "invalid utf-8 sequence of " ++ toString length ++ " bytes from index " ++ toString index
  | .incomplete index => "incomplete utf-8 byte sequence from index " ++ toString index

/-- The first fault of bytes that stand behind `index` others. -/
def utf8FaultFrom? (index : Nat) : List UInt8 → Option Utf8Fault
  | [] => none
  | b :: bytes =>
    match followers b with
    | none => if b.toNat < 0x80 then utf8FaultFrom? (index + 1) bytes else some (.invalid 1 index)
    | some ranges =>
      let tail := leadingIn ranges bytes
      if tail.length = ranges.length then
        utf8FaultFrom? (index + 1 + tail.length) (bytes.drop tail.length)
      else if tail.length = bytes.length then some (.incomplete index)
      else some (.invalid (1 + tail.length) index)
termination_by bytes => bytes.length
decreasing_by
  · simp
  · simp only [List.length_drop, List.length_cons]; omega

/-- The first fault of a byte sequence. -/
def utf8Fault? (bytes : List UInt8) : Option Utf8Fault :=
  utf8FaultFrom? 0 bytes

end NarIndex.Text
