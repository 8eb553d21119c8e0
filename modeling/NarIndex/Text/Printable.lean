import NarIndex.Text.Assigned
import NarIndex.Text.Mark

/-!
# NarIndex.Text.Printable

The characters that have a picture of their own.  Controls, format characters, fillers, separators
other than the ASCII space, marks that extend the character before them, and unassigned code points
have none.
-/

namespace NarIndex.Text

/-- Controls, format characters, fillers, and separators other than the ASCII space. -/
def invisible : Ranges :=
  [(0x0, 0x1F), (0x7F, 0xA0), (0xAD, 0xAD), (0x600, 0x605), (0x61C, 0x61C), (0x6DD, 0x6DD),
    (0x70F, 0x70F), (0x890, 0x891), (0x8E2, 0x8E2), (0x115F, 0x1160), (0x1680, 0x1680),
    (0x180E, 0x180E), (0x2000, 0x200F), (0x2028, 0x202F), (0x205F, 0x2064), (0x2066, 0x206F),
    (0x3000, 0x3000), (0x3164, 0x3164), (0xFEFF, 0xFEFF), (0xFFA0, 0xFFA0), (0xFFF9, 0xFFFB),
    (0x110BD, 0x110BD), (0x110CD, 0x110CD), (0x13430, 0x1343F), (0x1BCA0, 0x1BCA3),
    (0x1D173, 0x1D17A), (0xE0001, 0xE0001), (0xE0020, 0xE007F)]

/-- Whether a character has a picture of its own. -/
def isPrintable (c : Char) : Bool :=
  !invisible.contains c.toNat && !isExtender c.toNat && isAssigned c.toNat

end NarIndex.Text
