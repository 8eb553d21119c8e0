/-!
# NarIndex.Text.Ranges

Classes of characters given by ranges of code points.
-/

namespace NarIndex.Text

/-- Ranges from a first code point to a last one, ascending and apart from each other. -/
abbrev Ranges := List (Nat × Nat)

/-- Whether a code point lies in one of the ranges.  The search ends at the first one behind it. -/
def Ranges.contains : Ranges → Nat → Bool
  | [], _ => false
  | (first, last) :: ranges, n => first ≤ n && (n ≤ last || contains ranges n)

end NarIndex.Text
