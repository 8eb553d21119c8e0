/-!
# NarIndex.Text.Order

Texts in the order of their UTF-8 bytes, the order in which the catalog lists hashes, references
and signatures.
-/

namespace NarIndex.Text

/-- The UTF-8 bytes by which a stored text is compared. -/
def bytes (s : String) : List UInt8 :=
  s.toByteArray.data.toList

/-- Whether one text comes before another one or equals it. -/
def le (a b : String) : Bool :=
  decide (bytes a ≤ bytes b)

/-- Texts in ascending order. -/
def sorted (texts : List String) : List String :=
  texts.mergeSort le

theorem bytes_injective {a b : String} (h : bytes a = bytes b) : a = b := by
  have h' : a.toByteArray.data = b.toByteArray.data := by
    simpa [bytes] using congrArg List.toArray h
  exact String.toByteArray_inj.1 (ByteArray.ext h')

/-- Texts in ascending order, each of them once. -/
def distinct (texts : List String) : List String :=
  sorted texts.eraseDups

end NarIndex.Text
