import NarIndex.Text.Assigned
import NarIndex.Text.Normal
import NarIndex.Url.Domain.Expansions
import NarIndex.Url.Domain.Letters

/-!
# NarIndex.Url.Domain.Spelling

The one spelling of a host name.  Capital letters become small ones, decorated characters plain
ones, what cannot be seen is left out, and the result is brought to its normal form.
-/

namespace NarIndex.Url.Domain

open NarIndex.Text

/-- Assigned characters that no host name has. -/
def excluded : Ranges :=
  [(0x80, 0x9F), (0x600, 0x605), (0x61C, 0x61C), (0x6DD, 0x6DD), (0x70F, 0x70F), (0x890, 0x891),
    (0x8E2, 0x8E2), (0x1680, 0x1680), (0x200E, 0x200F), (0x2024, 0x2026), (0x2028, 0x202E),
    (0x2066, 0x2069), (0x2488, 0x249B), (0x2FF0, 0x2FFF), (0x31EF, 0x31EF), (0x33C2, 0x33C2),
    (0x33C7, 0x33C7), (0x33D8, 0x33D8), (0xFE12, 0xFE12), (0xFE19, 0xFE19), (0xFE30, 0xFE30),
    (0xFE52, 0xFE52), (0xFFF9, 0xFFFD), (0x110BD, 0x110BD), (0x110CD, 0x110CD), (0x13430, 0x1343F),
    (0x1F100, 0x1F100), (0xE0001, 0xE0001), (0xE0020, 0xE007F)]

/-- Characters that mean nothing in a host name. -/
def ignored : Ranges :=
  [(0xAD, 0xAD), (0x34F, 0x34F), (0x115F, 0x1160), (0x17B4, 0x17B5), (0x180B, 0x180F),
    (0x200B, 0x200B), (0x2060, 0x2064), (0x206A, 0x206F), (0x3164, 0x3164), (0xFE00, 0xFE0F),
    (0xFEFF, 0xFEFF), (0xFFA0, 0xFFA0), (0x1BCA0, 0x1BCA3), (0x1D173, 0x1D17A), (0xE0100, 0xE01EF)]

/-- What a character stands for; `none` if no host name has it. -/
def spelling? (c : Char) : Option (List Char) :=
  let n := c.toNat
  if !isAssigned n || excluded.contains n then none
  else if ignored.contains n then some []
  else match expansions.image? n with
    | some text => some text
    | none => some [(letter? n).getD c]

/-- Whether a character stands for itself. -/
def isPlain (c : Char) : Bool :=
  spelling? c == some [c]

/-- The spelling of a text; `none` if it has a character that no host name has. -/
def spell? (s : List Char) : Option (List Char) :=
  (s.mapM spelling?).map fun parts => normal parts.flatten

end NarIndex.Url.Domain
