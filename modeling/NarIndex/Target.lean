import NarIndex.Target.MySql
import NarIndex.Target.Postgres
import NarIndex.Target.Scheme
import NarIndex.Target.Sqlite

/-!
# NarIndex.Target

What a database URL leads to: the backend, the connection string for its driver, and the file of a
SQLite database.
-/

namespace NarIndex

/-- A database to connect to. -/
structure Target where
  kind : Sql.Dialect
  /-- The connection string for the driver. -/
  dsn : List Char
  /-- The database file, for SQLite databases that have one. -/
  file : Option (List Char) := none
  deriving DecidableEq, Repr

namespace Target

/-- The target of a SQLite database. -/
def ofSqlite (database : SqliteDatabase) : Target :=
  ⟨.sqlite, database.dsn, database.path?⟩

/-- The target that a database URL names. -/
def parse (s : List Char) : Except StoreError Target := do
  match ← detectKind s with
  | .sqlite => return ofSqlite (← SqliteDatabase.ofUrl s)
  | .postgres => return { kind := .postgres, dsn := (← Postgres.connection s).text }
  | .mysql => return { kind := .mysql, dsn := (← MySql.connection s).text }

/-- The connection string as it may be shown. -/
def redacted (target : Target) : List Char :=
  redact target.dsn

end Target

end NarIndex
