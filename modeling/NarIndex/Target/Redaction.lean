import NarIndex.Error
import NarIndex.Url.Parser

/-!
# NarIndex.Target.Redaction

Database URLs as they may be shown: with the password masked.  A text that is no URL loses
everything up to its last at sign, which is where a password could stand.
-/

namespace NarIndex.Target

open NarIndex.Text

/-- What stands in place of a password. -/
def mask : List Char :=
  ['*', '*', '*']

/-- A database URL without its password. -/
def redact (s : List Char) : List Char :=
  match Url.parse s with
  | .ok url => if url.password.isSome then (url.withPassword mask).text else s
  | .error _ =>
    match cutLast? '@' s with
    | some (_, rest) => mask ++ '@' :: rest
    | none => s

/-- The error that a database URL is invalid for a reason; it shows the URL redacted. -/
def invalid (reason : String) (s : List Char) : StoreError :=
  .invalidUrl (reason ++ ": " ++ String.ofList (redact s))

/-- The URL that a text spells. -/
def readUrl (s : List Char) : Except StoreError Url :=
  match Url.parse s with
  | .ok url => .ok url
  | .error reason => .error (invalid reason.message s)

end NarIndex.Target
