import NarIndex.Text.Split

/-!
# NarIndex.Url.Punycode

Labels of a host name with characters outside ASCII, written in ASCII: the ASCII characters come
first, and behind a hyphen the places of the other ones, in the order of their code points, as
numbers whose digits adapt to how far apart they are.
-/

namespace NarIndex.Url.Punycode

open NarIndex.Text

/-! ## digits -/

/-- A digit of base 36: the letters `a` to `z`, then `0` to `9`. -/
def digit (n : Nat) : Char :=
  if n < 26 then Char.ofNat (0x61 + n) else Char.ofNat (0x30 + (n - 26))

/-- The value of a digit. -/
def digitValue? (c : Char) : Option Nat :=
  if 'a' ≤ c ∧ c ≤ 'z' then some (c.toNat - 0x61)
  else if c.isDigit then some (c.toNat - 0x30 + 26)
  else none

/-- The value below which a digit at a position (36 for the first one, 72 for the second one, and so
on) ends its number. -/
def threshold (position bias : Nat) : Nat :=
  min 26 (max 1 (position - bias))

/-! ## writing -/

/-- The digits of a number, the lowest one first. -/
def number (bias position n : Nat) : List Char :=
  let t := threshold position bias
  if n < t then [digit n]
  else digit (t + (n - t) % (36 - t)) :: number bias (position + 36) ((n - t) / (36 - t))
termination_by n
decreasing_by
  have h : 1 ≤ threshold position bias := by simp only [threshold]; omega
  exact Nat.lt_of_le_of_lt (Nat.div_le_self _ _) (by omega)

/-- How often a step is divided by 35 until it is small, and what is left of it. -/
def shrink (step divisions : Nat) : Nat × Nat :=
  if 455 < step then shrink (step / 35) (divisions + 1) else (step, divisions)
termination_by step
decreasing_by exact Nat.div_lt_self (by omega) (by omega)

/-- The bias for the number behind a step. -/
def adapt (step count : Nat) (first : Bool) : Nat :=
  let step := if first then step / 700 else step / 2
  let (rest, divisions) := shrink (step + step / count) 0
  36 * divisions + 36 * rest / (rest + 38)

/-- What writing keeps between two characters: the digits so far, the step since the last character
written, the bias, and how many characters are written. -/
structure Progress where
  output : List Char
  step : Nat
  bias : Nat
  count : Nat

/-- One pass over the label writes the places of one code point. -/
def Progress.pass (label : List Char) (ascii code : Nat) (progress : Progress) : Progress :=
  label.foldl (fun p c =>
    if c.toNat < code then { p with step := p.step + 1 }
    else if c.toNat = code then
      ⟨p.output ++ number p.bias 36 p.step, 0, adapt p.step (p.count + 1) (p.count == ascii),
        p.count + 1⟩
    else p) progress

/-- A label in ASCII, without the mark that goes before it. -/
def encode (label : List Char) : List Char :=
  let basic := label.filter (·.toNat < 0x80)
  let codes := ((label.map Char.toNat).filter (0x80 ≤ ·)).eraseDups.mergeSort
  let result := codes.foldl (fun (p, next) code =>
      let p : Progress := { p with step := p.step + (code - next) * (p.count + 1) }
      let p := p.pass label basic.length code
      ({ p with step := p.step + 1 }, code + 1))
    ((⟨[], 0, 72, basic.length⟩ : Progress), 0x80)
  basic ++ (if basic.isEmpty then [] else ['-']) ++ result.1.output

/-! ## reading -/

/-- The number at the front of digits, and what stands behind it.  `weight` is what the digit at
`position` counts. -/
def readNumber? (bias : Nat) : (position weight : Nat) → List Char → Option (Nat × List Char)
  | _, _, [] => none
  | position, weight, c :: digits => do
    let value ← digitValue? c
    let t := threshold position bias
    if value < t then return (value * weight, digits)
    let (n, rest) ← readNumber? bias (position + 36) (weight * (36 - t)) digits
    return (value * weight + n, rest)

theorem length_of_readNumber? {bias position weight n : Nat} {digits rest : List Char}
    (h : readNumber? bias position weight digits = some (n, rest)) :
    rest.length < digits.length := by
  induction digits generalizing position weight n rest with
  | nil => simp [readNumber?] at h
  | cons c digits ih =>
    simp only [readNumber?, Option.bind_eq_bind, Option.pure_def, Option.bind_eq_some_iff] at h
    obtain ⟨value, -, h⟩ := h
    split at h
    · simp only [Option.some.injEq, Prod.mk.injEq] at h
      simp [← h.2]
    · obtain ⟨⟨m, tail⟩, hm, h⟩ := Option.bind_eq_some_iff.1 h
      simp only [Option.some.injEq, Prod.mk.injEq] at h
      have := ih hm
      rw [← h.2]
      exact Nat.lt_succ_of_lt this

/-- The label that digits make of the characters put in place so far, reading on at a code point
and a place. -/
def insertAll? (code place bias : Nat) (first : Bool) (label digits : List Char) :
    Option (List Char) :=
  if digits.isEmpty then some label
  else
    match h : readNumber? bias 36 1 digits with
    | none => none
    | some (step, rest) =>
      let count := label.length + 1
      let code := code + (place + step) / count
      let place := (place + step) % count
      if code.isValidChar then
        insertAll? code (place + 1) (adapt step count first) false
          (label.insertIdx place (Char.ofNat code)) rest
      else none
termination_by digits.length
decreasing_by exact length_of_readNumber? h

/-- The label that a text in ASCII, without the mark before it, stands for. -/
def decode? (s : List Char) : Option (List Char) :=
  match (cutLast? '-' s).filter (!·.1.isEmpty) with
  | some (basic, digits) => insertAll? 0x80 0 72 true basic digits
  | none => insertAll? 0x80 0 72 true [] s

end NarIndex.Url.Punycode
