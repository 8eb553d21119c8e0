import NarIndex.Catalog.Value
import NarIndex.Error.Driver
import NarIndex.Time.Timestamp

/-!
# NarIndex.Catalog.Readable

Rows as they are kept and as they are read.  A table keeps rows of `Value`s.  Whoever reads a row
wants integers, with sizes and times in their ranges, and gets the error of the first column that is
something else.
-/

namespace NarIndex.Catalog

/-! ## columns -/

/-- What a column of integers is read as. -/
inductive ColumnType where
  | integer
  | optionalInteger
  | time
  | optionalTime
  deriving DecidableEq, Repr

/-- The name of a column type in an error. -/
def ColumnType.name : ColumnType → String
  | .integer => "i64"
  | .optionalInteger => "core::option::Option<i64>"
  | .time => "narcache_metadata::models::Timestamp"
  | .optionalTime => "core::option::Option<narcache_metadata::models::Timestamp>"

/-- The name of the kind of a value in an error. -/
def Value.kind : Value → String
  | .integer _ => "BIGINT"
  | .real _ => "DOUBLE"
  | .text _ => "TEXT"

/-- A value as an integer.  `label` is the column as an error shows it. -/
def Value.toInt (label : String) (type : ColumnType) : Value → Except DriverError Int
  | .integer n => .ok n
  | value => .error (.incompatible label type.name value.kind)

/-- The name of a column as an error shows it, mostly. -/
def quoted (column : String) : String :=
  "\"" ++ column ++ "\""

/-- A column that may hold an integer. -/
def readOptionalInteger (column : String) (value : Option Value) :
    Except DriverError (Option Int) :=
  value.mapM (·.toInt (quoted column) .optionalInteger)

/-- A column that has to hold a number from zero to a limit. -/
def readNumber (column : String) (limit : Int) (value : Value) : Except DriverError Int := do
  let n ← value.toInt (quoted column) .integer
  if 0 ≤ n ∧ n ≤ limit then return n else throw (.numberOutOfRange column)

/-- A column that holds a time, in microseconds. -/
def readMicros (column : String) (type : ColumnType) (value : Value) : Except DriverError Int := do
  let micros ← value.toInt (quoted column) type
  if (Time.Timestamp.ofMicros? micros).isSome then return micros
  else throw (.timeOutOfRange (quoted column))

/-- A column that has to hold a time. -/
def readTime (column : String) (value : Value) : Except DriverError Int :=
  readMicros column .time value

/-- A column that may hold a time. -/
def readOptionalTime (column : String) (value : Option Value) : Except DriverError (Option Int) :=
  value.mapM (readMicros column .optionalTime)

/-! ## rows -/

/-- Rows, given by what their columns of integers hold, that can be read. -/
class Readable (ρ : Type → Type) where
  /-- A row as it is read. -/
  read : ρ Value → Except DriverError (ρ Int)

export Readable (read)

/-- Rows as they are read, in their order; the first one that cannot be read decides. -/
def readAll {ρ : Type → Type} [Readable ρ] (rows : List (ρ Value)) :
    Except DriverError (List (ρ Int)) :=
  rows.mapM read

end NarIndex.Catalog
