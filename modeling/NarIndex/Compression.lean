/-!
# NarIndex.Compression

The compression of a stored NAR is free text.  Two values of it name no codec.
-/

namespace NarIndex.Compression

/-- The values that mean "not compressed". -/
def uncompressed : List String :=
  ["", "none"]

/-- Whether a value names a codec; case and white space count. -/
def isCompressed (value : String) : Bool :=
  !uncompressed.contains value

end NarIndex.Compression
