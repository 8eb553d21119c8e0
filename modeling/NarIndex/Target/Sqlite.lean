import NarIndex.Error
import NarIndex.Text.Split

/-!
# NarIndex.Target.Sqlite

Database URLs of SQLite: `sqlite:path`, also with two slashes before the path, and
`sqlite::memory:`.  They are cut as texts; parameters behind a question mark are left out.
-/

namespace NarIndex.Target

open NarIndex.Text

/-- The name of the database in memory. -/
def inMemory : List Char :=
  ":memory:".toList

/-- Where a SQLite database is kept. -/
inductive SqliteDatabase where
  | memory
  | file (path : List Char)
  deriving DecidableEq, Repr

namespace SqliteDatabase

/-- The database that the text behind the scheme names; an empty path names none. -/
def read? (s : List Char) : Option SqliteDatabase :=
  let named := match cut? '?' s with
    | some (front, _) => front
    | none => s
  if named = inMemory then some .memory
  else
    let path := (dropPrefix? ['/', '/'] named).getD named
    if path = [] then none else some (.file path)

/-- The connection string of a database; a file is created if it is not there. -/
def dsn : SqliteDatabase → List Char
  | .memory => "sqlite:".toList ++ inMemory
  | .file path => "sqlite:".toList ++ path ++ "?mode=rwc".toList

def path? : SqliteDatabase → Option (List Char)
  | .memory => none
  | .file path => some path

/-- The database that a URL names. -/
def ofUrl (s : List Char) : Except StoreError SqliteDatabase :=
  match cut? ':' s with
  | none => .error (.invalidUrl (String.ofList s))
  | some (_, rest) =>
    match read? rest with
    | some database => .ok database
    | none => .error (.invalidUrl ("missing database path: " ++ String.ofList s))

end SqliteDatabase

end NarIndex.Target
