import NarIndex.Target.Redaction
import NarIndex.Target.SocketPath

/-!
# NarIndex.Target.Postgres

Database URLs of PostgreSQL.  A URL for TCP is its own connection string.  A URL for a socket, with
`+unix` behind the scheme, has the directory of the socket in its path; the connection string has
it in a `host` parameter, which takes the place of those the URL has.
-/

namespace NarIndex.Target.Postgres

open NarIndex.Text

/-- The parameter that holds the directory of a socket. -/
def hostKey : List Char :=
  "host".toList

/-- The scheme of the connection string: the one of the URL without `+unix`. -/
def baseScheme (scheme : List Char) : List Char :=
  if "postgresql".toList.isPrefixOf scheme then "postgresql".toList else "postgres".toList

/-- The URL with the socket of its path moved to the parameters. -/
def moveSocket (url : Url) (path : SocketPath) : Url :=
  (url.withPath path.database).withPairs
    (url.pairs.filter (·.1 ≠ hostKey) ++ [(hostKey, path.socket)])

/-- The connection string of a URL, as a URL itself. -/
def connection (s : List Char) : Except StoreError Url := do
  let url ← readUrl s
  let based := { url with scheme := baseScheme url.scheme }
  if "+unix".toList.isSuffixOf url.scheme then
    match SocketPath.ofPath url.path.text with
    | .ok path => return moveSocket based path
    | .error problem => throw (invalid problem.message s)
  else return based

end NarIndex.Target.Postgres
