/-!
# NarIndex.Sql.Dialect

The three database backends and what differs between them: the spelling of bind parameters, of
reserved names and of upserts, the sizes of a connection pool, and the statements that prepare a
new connection.
-/

namespace NarIndex.Sql

/-- A database backend. -/
inductive Dialect where
  | sqlite
  | postgres
  | mysql
  deriving DecidableEq, Repr

namespace Dialect

/-- The name of a backend, as it stands in messages. -/
def name : Dialect → String
  | .sqlite => "sqlite"
  | .postgres => "postgres"
  | .mysql => "mysql"

/-- Whether an insert can resolve a conflict and return the row in one statement. -/
def nativeUpsert : Dialect → Bool
  | .postgres => true
  | _ => false

/-! ## spelling -/

/-- The character around a reserved name. -/
def quote : Dialect → Char
  | .mysql => '\x60'
  | _ => '"'

/-- The bind parameter of a position, counted from 1. -/
def placeholder : Dialect → Nat → List Char
  | .postgres, position => '$' :: Nat.toDigits 10 position
  | _, _ => ['?']

/-- Within the updates of an upsert, the value that was to be inserted. -/
def excluded (dialect : Dialect) (column : String) : String :=
  match dialect with
  | .mysql => "VALUES(" ++ column ++ ")"
  | _ => "excluded." ++ column

/-- The end of an insert that updates the row it collides with. -/
def onConflictUpdate (dialect : Dialect) (target assignments : String) : String :=
  match dialect with
  | .mysql => "ON DUPLICATE KEY UPDATE " ++ assignments
  | _ => "ON CONFLICT (" ++ target ++ ") DO UPDATE SET " ++ assignments

/-- The end of an insert that leaves the row it collides with alone.  `column` is any column of the
table, for a backend that has to assign something. -/
def onConflictIgnore (dialect : Dialect) (target column : String) : String :=
  match dialect with
  | .mysql => "ON DUPLICATE KEY UPDATE " ++ column ++ " = " ++ column
  | _ => "ON CONFLICT (" ++ target ++ ") DO NOTHING"

/-- The sum of an expression as a 64-bit integer, zero over no rows. -/
def sumBigint (dialect : Dialect) (expression : String) : String :=
  match dialect with
  | .sqlite => "COALESCE(SUM(" ++ expression ++ "), 0)"
  | .postgres => "COALESCE(SUM(" ++ expression ++ "), 0)::BIGINT"
  | .mysql => "CAST(COALESCE(SUM(" ++ expression ++ "), 0) AS SIGNED)"

/-! ## connections -/

/-- The sizes of a connection pool where nothing else is asked for.  A pinned backend writes
through one connection, so its size cannot be changed. -/
structure PoolDefaults where
  maxOpen : UInt32
  maxIdle : UInt32
  pinned : Bool
  deriving DecidableEq, Repr

/-- The pool sizes of a backend. -/
def poolDefaults : Dialect → PoolDefaults
  | .sqlite => ⟨1, 1, true⟩
  | _ => ⟨25, 5, false⟩

/-- The statements that prepare a new connection. -/
def sessionSetup : Dialect → List String
  | .sqlite =>
    ["PRAGMA foreign_keys = ON", "PRAGMA busy_timeout = 5000", "PRAGMA journal_mode = WAL",
      "PRAGMA synchronous = NORMAL"]
  | _ => []

end Dialect

end NarIndex.Sql
