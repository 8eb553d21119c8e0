import NarIndex.Text.Split

/-!
# NarIndex.Target.SocketPath

The path of a URL that names a socket of the local machine: everything up to the last slash is the
place of the socket, and what stands behind it is the database.
-/

namespace NarIndex.Target

open NarIndex.Text

/-- The segments of a path that lead somewhere: not the empty ones, and not `.`. -/
def segments (path : List Char) : List (List Char) :=
  (splitOn '/' path).filter fun segment => segment ≠ [] ∧ segment ≠ ['.']

/-- A path with single slashes between the segments that lead somewhere, and with the root it
had. -/
def cleanPath (path : List Char) : List Char :=
  let joined := joinWith ['/'] (segments path)
  if path.head? = some '/' then '/' :: joined else joined

/-- A socket and a database behind it. -/
structure SocketPath where
  socket : List Char
  database : List Char
  deriving DecidableEq, Repr

/-- What a socket path can lack. -/
inductive SocketPath.Problem where
  | noDatabase
  | noSocket
  deriving DecidableEq, Repr

/-- The wording of a problem. -/
def SocketPath.Problem.message : Problem → String
  | .noDatabase => "missing database name in path"
  | .noSocket => "missing socket path in path"

/-- The socket and the database that a path names. -/
def SocketPath.ofPath (path : List Char) : Except Problem SocketPath :=
  let (directory, database) := (cutLast? '/' path).getD ([], path)
  let socket := cleanPath directory
  if database = [] then .error .noDatabase
  else if socket = [] ∨ socket = ['/'] then .error .noSocket
  else .ok ⟨socket, database⟩

end NarIndex.Target
