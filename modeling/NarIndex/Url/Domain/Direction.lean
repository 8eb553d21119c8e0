import NarIndex.Text.Mark

/-!
# NarIndex.Url.Domain.Direction

Labels that are read from right to left.  As soon as a host name has one, each of its labels has to
be of a form that can be told apart from its neighbours wherever it is shown.
-/

namespace NarIndex.Url.Domain

open NarIndex.Text

/-! ## directions of characters -/

/-- How a character is placed in a line. -/
inductive Direction where
  | left
  | right
  | arabicNumber
  | europeanNumber
  | neutral
  | nonspacing
  deriving DecidableEq, Repr

namespace Direction

/-- Marks that take no room but are placed as if they did. -/
def placedMarks : Ranges :=
  [(0xCBF, 0xCBF), (0xCC6, 0xCC6), (0x11A07, 0x11A08), (0x11C3F, 0x11C3F)]

/-- Digits of Arabic numbers. -/
def arabicDigits : Ranges :=
  [(0x660, 0x669), (0x66B, 0x66C), (0x10D30, 0x10D49), (0x10E60, 0x10E7E)]

/-- Digits of European numbers. -/
def europeanDigits : Ranges :=
  [(0x30, 0x39), (0x6F0, 0x6F9), (0x102E1, 0x102FB)]

/-- Punctuation and symbols that are placed as what surrounds them; marks between them are not
meant. -/
def neutrals : Ranges :=
  [(0x0, 0x2F), (0x3A, 0x60), (0x7B, 0xD7), (0xF7, 0xF7), (0x2B9, 0x2BA), (0x2C2, 0x2CF),
    (0x2D2, 0x2ED), (0x2EF, 0x2FF), (0x375, 0x375), (0x3F6, 0x3F6), (0x58A, 0x58F), (0x606, 0x607),
    (0x609, 0x60A), (0x60C, 0x60C), (0x60E, 0x60F), (0x66A, 0x66A), (0x6DE, 0x6DE), (0x6E9, 0x6E9),
    (0x7F6, 0x7F9), (0x9F2, 0x9F3), (0x9FB, 0x9FB), (0xAF1, 0xAF1), (0xBF3, 0xBFA), (0xC78, 0xC7E),
    (0xE3F, 0xE3F), (0xF3A, 0xF3D), (0x1390, 0x1399), (0x1400, 0x1400), (0x169B, 0x169C),
    (0x17DB, 0x17DB), (0x17F0, 0x180A), (0x1940, 0x1945), (0x19DE, 0x19FF), (0x200C, 0x214D),
    (0x218A, 0x2335), (0x237B, 0x2394), (0x2396, 0x26AB), (0x26AD, 0x27FF), (0x2900, 0x2BFF),
    (0x2CE5, 0x2CEA), (0x2CF9, 0x2CFF), (0x2E00, 0x3004), (0x3008, 0x3020), (0x3030, 0x3030),
    (0x3037, 0x3037), (0x303D, 0x303F), (0x30A0, 0x30A0), (0x30FB, 0x30FB), (0x31C0, 0x31E5),
    (0x4DC0, 0x4DFF), (0xA490, 0xA4C6), (0xA60D, 0xA60F), (0xA673, 0xA67F), (0xA700, 0xA721),
    (0xA788, 0xA788), (0xA828, 0xA82B), (0xA838, 0xA839), (0xA874, 0xA877), (0xAB6A, 0xAB6B),
    (0xFBC3, 0xFE46), (0x10101, 0x10101), (0x10140, 0x1018C), (0x10190, 0x101A0),
    (0x1091F, 0x1091F), (0x10B39, 0x10B3F), (0x10D6E, 0x10D6E), (0x10ED0, 0x10ED8),
    (0x11052, 0x11065), (0x11660, 0x1166C), (0x11FD5, 0x11FF1), (0x16FE2, 0x16FE2),
    (0x1CC00, 0x1CEF0), (0x1D1E9, 0x1D245), (0x1D300, 0x1D356), (0x1E2FF, 0x1E2FF),
    (0x1EEF0, 0x1F12F), (0x1F16D, 0x1F16F), (0x1F1AD, 0x1F1AD), (0x1F260, 0x1FBFA)]

/-- The scripts that are written from right to left, with the digits and symbols among them. -/
def rightToLeft : Ranges :=
  [(0x5BE, 0x8C9), (0xFBB2, 0xFE73), (0x10800, 0x10FF6), (0x1E800, 0x1ED3D)]

/-- The direction of a character that a host name can have. -/
def ofChar (c : Char) : Direction :=
  let n := c.toNat
  if isNonspacing n && !placedMarks.contains n then .nonspacing
  else if arabicDigits.contains n then .arabicNumber
  else if europeanDigits.contains n then .europeanNumber
  else if neutrals.contains n then .neutral
  else if rightToLeft.contains n then .right
  else .left

end Direction

/-! ## labels -/

/-- Whether a host name is subject to the rules on direction. -/
def hasRightToLeft (name : List Char) : Bool :=
  name.any fun c => Direction.ofChar c = .right ∨ Direction.ofChar c = .arabicNumber

/-- Whether directions, without marks at their end, are those of a label read from left to right. -/
def isLeftLabel (directions : List Direction) : Bool :=
  directions.head? == some .left
    && directions.all (fun d => d ≠ .right ∧ d ≠ .arabicNumber)
    && directions.getLast?.any (· ≠ .neutral)

/-- Whether directions, without marks at their end, are those of a label read from right to left;
it has numbers of one kind only. -/
def isRightLabel (directions : List Direction) : Bool :=
  directions.head? == some .right
    && !directions.contains .left
    && !(directions.contains .arabicNumber && directions.contains .europeanNumber)
    && directions.getLast?.any (· ≠ .neutral)

/-- Whether a label has one direction. -/
def hasOneDirection (label : List Char) : Bool :=
  let directions := ((label.map Direction.ofChar).reverse.dropWhile (· == .nonspacing)).reverse
  label.isEmpty || isLeftLabel directions || isRightLabel directions

end NarIndex.Url.Domain
