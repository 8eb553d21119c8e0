/-!
# NarIndex.Error.Driver

The errors that a database driver reports, and their wording.  An engine reports its own errors
with a code of its own; the rest come from the driver: the pool, the wire, the encoding of values.
-/

namespace NarIndex

/-- An error reported by a database engine. -/
inductive EngineError where
  /-- SQLite: an extended result code. -/
  | sqlite (code : Int) (message : String)
  /-- PostgreSQL: a five-character state. -/
  | postgres (sqlstate message : String)
  /-- MySQL: a number, and mostly a state. -/
  | mysql (number : UInt16) (sqlstate : Option String) (message : String)
  /-- An engine that none of the three codes belong to. -/
  | foreign (message : String)
  deriving DecidableEq, Repr

/-- What the engine says, without its code. -/
def EngineError.text : EngineError → String
  | .sqlite _ message => message
  | .postgres _ message => message
  | .mysql _ _ message => message
  | .foreign message => message

/-- What the engine says, with the code as far as it shows it. -/
def EngineError.message : EngineError → String
  | .sqlite code message => "(code: " ++ toString code ++ ") " ++ message
  | .postgres _ message => message
  | .mysql number (some sqlstate) message => toString number ++ " (" ++ sqlstate ++ "): " ++ message
  | .mysql number none message => toString number ++ ": " ++ message
  | .foreign message => message

/-- An error reported by a database driver.  Left out are those that no call of the store meets: a
column asked for by a place that is not there, a statement that should have begun a transaction and
has not, or cannot within another one, and a migration of the driver's own.  The first three have
fixed wordings that tell of no kind. -/
inductive DriverError where
  | rowNotFound
  | poolTimedOut
  | poolClosed
  | workerCrashed
  | database (error : EngineError)
  | protocol (text : String)
  | configuration (text : String)
  | io (text : String)
  | tls (text : String)
  | encode (text : String)
  | decode (text : String)
  | columnDecode (column text : String)
  | columnNotFound (name : String)
  | typeNotFound (name : String)
  | mapping (text : String)
  deriving DecidableEq, Repr

namespace DriverError

/-- The wording of a driver error. -/
def message : DriverError → String
  | .rowNotFound => "no rows returned by a query that expected to return at least one row"
  | .poolTimedOut => "pool timed out while waiting for an open connection"
  | .poolClosed => "attempted to acquire a connection on a closed pool"
  | .workerCrashed => "attempted to communicate with a crashed background worker"
  | .database error => "error returned from database: " ++ error.message
  | .protocol text => "encountered unexpected or invalid data: " ++ text
  | .configuration text => "error with configuration: " ++ text
  | .io text => "error communicating with database: " ++ text
  | .tls text => "error occurred while attempting to establish a TLS connection: " ++ text
  | .encode text => "error occurred while encoding a value: " ++ text
  | .decode text => "error occurred while decoding: " ++ text
  | .columnDecode column text =>
    "error occurred while decoding column " ++ column ++ ": " ++ text
  | .columnNotFound name => "no column found for name: " ++ name
  | .typeNotFound name => "type named " ++ name ++ " not found"
  | .mapping text => "error in Any driver mapping: " ++ text

/-! ## the errors of a SQLite catalog -/

/-- A row would point at a parent row that is not there. -/
def foreignKeyViolated : DriverError :=
  .database (.sqlite 787 "FOREIGN KEY constraint failed")

/-- A row would repeat the named columns of another row. -/
def uniqueViolated (columns : String) : DriverError :=
  .database (.sqlite 2067 ("UNIQUE constraint failed: " ++ columns))

/-- A row would repeat the primary key of another row. -/
def primaryKeyViolated (column : String) : DriverError :=
  .database (.sqlite 1555 ("UNIQUE constraint failed: " ++ column))

/-- A row would have no value in the named column, which needs one. -/
def notNullViolated (column : String) : DriverError :=
  .database (.sqlite 1299 ("NOT NULL constraint failed: " ++ column))

/-- An id would not be an integer. -/
def typeMismatched : DriverError :=
  .database (.sqlite 20 "datatype mismatch")

def noSuchTable (name : String) : DriverError :=
  .database (.sqlite 1 ("no such table: " ++ name))

def noSuchColumn (name : String) : DriverError :=
  .database (.sqlite 1 ("no such column: " ++ name))

/-- Another connection holds the write lock. -/
def locked : DriverError :=
  .database (.sqlite 5 "database is locked")

/-- A sum leaves the range of 64-bit integers. -/
def sumOverflowed : DriverError :=
  .database (.sqlite 1 "integer overflow")

/-- The database file cannot be opened. -/
def cannotOpen : DriverError :=
  .database (.sqlite 14 "unable to open database file")

/-- A stored value is of another kind than its column is read as. -/
def incompatible (column wanted stored : String) : DriverError :=
  .columnDecode column ("mismatched types; Rust type `" ++ wanted
    ++ "` is not compatible with SQL type `" ++ stored ++ "`")

/-- A stored number is outside the range that its column can be read as. -/
def numberOutOfRange (column : String) : DriverError :=
  .columnDecode column "unprintable error: (unprintable type)"

/-- A stored time is outside the calendar. -/
def timeOutOfRange (column : String) : DriverError :=
  .columnDecode column "timestamp was not in range"

end DriverError

end NarIndex
