import NarIndex.Text.Digits

/-!
# NarIndex.Json

JSON values as they are written.  A number keeps its token, so that a reader can tell `1` from
`1.0`; a string whose escapes name half of a surrogate pair is well-formed JSON but no text, and
has none here.
-/

namespace NarIndex

/-- A JSON value. -/
inductive Json where
  | null
  | bool (value : Bool)
  | number (token : List Char)
  | text (content : Option String)
  | array (items : List Json)
  | object (members : List (Option String × Json))
  deriving Inhabited

namespace Json

/-- The text of a string. -/
def text? : Json → Option String
  | .text content => content
  | _ => none

/-- The value of a number written with digits only, if it is at most `limit`. -/
def count? (limit : Nat) : Json → Option Nat
  | .number token =>
    if token.all Char.isDigit then
      let n := Text.decimal token
      if n ≤ limit then some n else none
    else none
  | _ => none

/-- The fields of a record, in the order of their names; a field that is not written is `none`.  A
record is written as an object, where a name may be missing and unknown names are passed over but
a known one is not given twice, or as an array of its first fields. -/
def fields? (names : List String) : Json → Option (List (Option Json))
  | .array items =>
    if items.length ≤ names.length then
      some (items.map some ++ List.replicate (names.length - items.length) none)
    else none
  | .object members => do
    let known ← members.mapM fun (name, value) => name.map (·, value)
    if names.all fun name => (known.filter (·.1 == name)).length ≤ 1 then
      some (names.map fun name => known.lookup name)
    else none
  | _ => none

end Json

end NarIndex
