import NarIndex.Error
import NarIndex.Sql.Dialect
import NarIndex.Text.Case

/-!
# NarIndex.Target.Scheme

The backend that a database URL names by its scheme.  The scheme is whatever stands before the
first colon, before any other reading of the URL.
-/

namespace NarIndex.Target

open NarIndex.Text

/-- The text before the first colon, in lower case; empty if there is no colon. -/
def scheme (s : List Char) : List Char :=
  match cut? ':' s with
  | some (scheme, _) => toLower scheme
  | none => []

/-- The backend of a scheme. -/
def kindOfScheme? (scheme : List Char) : Option Sql.Dialect :=
  if scheme ∈ ["sqlite".toList, "sqlite3".toList] then some .sqlite
  else if scheme ∈ ["postgres".toList, "postgresql".toList, "postgres+unix".toList,
      "postgresql+unix".toList] then some .postgres
  else if scheme ∈ ["mysql".toList, "mysql+unix".toList] then some .mysql
  else none

/-- The backend that a database URL names. -/
def detectKind (s : List Char) : Except StoreError Sql.Dialect :=
  match kindOfScheme? (scheme s) with
  | some kind => .ok kind
  | none => .error (.unsupportedDriver (String.ofList (scheme s)))

end NarIndex.Target
