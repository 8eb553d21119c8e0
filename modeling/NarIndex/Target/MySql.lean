import NarIndex.Target.Redaction
import NarIndex.Target.SocketPath

/-!
# NarIndex.Target.MySql

Database URLs of MySQL.  The connection string is built anew from the parts of the URL.  A socket
is named by the path, with `+unix` behind the scheme, or else by a parameter; the connection string
has it in a `socket` parameter and `localhost` as its host.
-/

namespace NarIndex.Target.MySql

open NarIndex.Text

/-- The host of connections that need none. -/
def localhost : List Char :=
  "localhost".toList

/-- The parameter that holds a socket. -/
def socketKey : List Char :=
  "socket".toList

/-- The other parameter that can name a socket. -/
def unixSocketKey : List Char :=
  "unix_socket".toList

/-- The parameter that names a socket if its value is an absolute path. -/
def hostKey : List Char :=
  "host".toList

def isAbsolute (value : List Char) : Bool :=
  value.head? == some '/'

/-- The first value of a parameter, if it is not empty. -/
def given? (key : List Char) (pairs : List Url.Form.Pair) : Option (List Char) :=
  (Url.Form.first? key pairs).filter (!·.isEmpty)

/-- The socket that the parameters name. -/
def namedSocket? (pairs : List Url.Form.Pair) : Option (List Char) :=
  (given? socketKey pairs).or
    ((given? unixSocketKey pairs).or ((given? hostKey pairs).filter isAbsolute))

/-- Whether a parameter is for the driver; those that name a socket are not. -/
def isKept (pair : Url.Form.Pair) : Bool :=
  if pair.1 = socketKey ∨ pair.1 = unixSocketKey then false
  else if pair.1 = hostKey then !isAbsolute pair.2
  else true

/-- What a URL says about the database: its name, and the socket to reach it through. -/
structure Destination where
  database : List Char
  socket : Option (List Char)
  deriving DecidableEq, Repr

/-- The destination of a URL. -/
def Destination.ofUrl (url : Url) : Except SocketPath.Problem Destination :=
  if url.scheme = "mysql+unix".toList then do
    let path ← SocketPath.ofPath url.path.text
    return ⟨path.database, some path.socket⟩
  else
    .ok ⟨url.path.text.dropWhile (· == '/'), namedSocket? url.pairs⟩

/-- Host and port of a connection: those of the URL if it has a host and no socket is used. -/
def address (url : Url) (socket : Option (List Char)) : Url.Host × Option Nat :=
  match socket, url.host with
  | none, some host => if host.isEmpty then (.name localhost, none) else (host, url.port)
  | _, _ => (.name localhost, none)

def parameters (url : Url) (socket : Option (List Char)) : List Url.Form.Pair :=
  url.pairs.filter isKept ++ socket.toList.map fun path => (socketKey, path)

/-- The connection string for a destination, as a URL itself. -/
def connectionTo (url : Url) (destination : Destination) : Url :=
  let (host, port) := address url destination.socket
  let pairs := parameters url destination.socket
  { scheme := "mysql".toList
    authority := some ⟨url.username, url.password, host, port⟩
    path := Url.Path.root destination.database
    query := if pairs.isEmpty then none else some (Url.Form.write pairs) }

/-- The connection string of a URL, as a URL itself.  An at sign with nothing but a slash behind it
leaves out the host, which then is `localhost`. -/
def connection (s : List Char) : Except StoreError Url := do
  let url ← readUrl (replaceFirst ['@', '/'] ('@' :: localhost ++ ['/']) s)
  match Destination.ofUrl url with
  | .ok destination => return connectionTo url destination
  | .error problem => throw (invalid problem.message s)

end NarIndex.Target.MySql
