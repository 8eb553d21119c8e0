import NarIndex.Error.Driver
import NarIndex.Text.Case
import NarIndex.Text.Split

/-!
# NarIndex.Error.Kind

The kinds of error that a caller can act on, and how a driver error is sorted into them: by the
engine's code where it has one that counts, else by what the message says.
-/

namespace NarIndex

open NarIndex.Text

/-- The kinds of error that are the same for every backend. -/
inductive ErrorKind where
  | notFound
  | duplicateKey
  /-- Deadlocks, serialization failures, lock timeouts and busy databases: worth another try. -/
  | deadlock
  | mismatchedInputLengths
  | unsupportedDriver
  | invalidUrl
  | connection
  | other
  deriving DecidableEq, Repr

namespace ErrorKind

/-! ## by code -/

/-- A SQLite result code.  The low byte is the primary code: busy, locked or a lock protocol error
are deadlocks whatever the extension; of the constraint errors two are duplicates. -/
def ofSqliteCode? (code : Int) : Option ErrorKind :=
  if code = 2067 ∨ code = 1555 then some .duplicateKey
  else if code % 256 = 5 ∨ code % 256 = 6 ∨ code % 256 = 15 then some .deadlock
  else none

/-- A PostgreSQL state. -/
def ofPostgresState? (sqlstate : String) : Option ErrorKind :=
  if sqlstate = "23505" then some .duplicateKey
  else if sqlstate = "40001" ∨ sqlstate = "40P01" then some .deadlock
  else none

/-- A MySQL error number. -/
def ofMySqlNumber? (number : UInt16) : Option ErrorKind :=
  if number = 1062 then some .duplicateKey
  else if number = 1213 ∨ number = 1205 then some .deadlock
  else none

/-- The code of an engine error, if it has one that counts. -/
def ofCode? : EngineError → Option ErrorKind
  | .sqlite code _ => ofSqliteCode? code
  | .postgres sqlstate _ => ofPostgresState? sqlstate
  | .mysql number _ _ => ofMySqlNumber? number
  | .foreign _ => none

/-! ## by message -/

/-- Texts that tell a duplicate key, letter for letter. -/
def duplicateMarkers : List (List Char) :=
  ["Error 1062".toList, "Duplicate entry".toList, "UNIQUE constraint failed".toList,
    "duplicate key value".toList]

/-- Texts that tell a deadlock, in any letter case. -/
def deadlockMarkers : List (List Char) :=
  ["deadlock".toList, "database is locked".toList, "database is busy".toList]

/-- What a message says; a duplicate key goes before a deadlock. -/
def ofText? (text : List Char) : Option ErrorKind :=
  if duplicateMarkers.any (occursIn · text) then some .duplicateKey
  else if deadlockMarkers.any (occursIn · (foldCase text)) then some .deadlock
  else none

/-- What a message says. -/
def ofMessage? (message : String) : Option ErrorKind :=
  ofText? message.toList

/-! ## of a driver error -/

/-- The kind of a driver error, if it has one of the kinds that are the same for every backend. -/
def ofDriver? : DriverError → Option ErrorKind
  | .rowNotFound => some .notFound
  | .database error => (ofCode? error).or (ofMessage? error.text)
  | error => ofMessage? error.message

end ErrorKind

end NarIndex
