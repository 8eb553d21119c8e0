import NarIndex.Opening.Address
import NarIndex.Opening.Place
import NarIndex.Opening.Pool
import NarIndex.Target

/-!
# NarIndex.Opening

Opening a store: its configuration is checked, its URL read, the directory of a database file made,
and a first connection opened.  What can be connected to is a matter of the surroundings: the file
system, and the sockets and servers that answer.
-/

namespace NarIndex

open NarIndex.Text

/-- What a store can reach. -/
structure Surroundings where
  files : FileSystem
  /-- The sockets on which a server listens. -/
  sockets : List Char → Bool := fun _ => false
  /-- The hosts on which a server listens. -/
  hosts : List Char → Bool := fun _ => false

/-- An open store, as far as its pool shows. -/
structure Opened where
  kind : Sql.Dialect
  pool : Pool
  deriving DecidableEq, Repr

namespace Opening

/-! ## connecting -/

/-- Connecting to a socket.  A name that begins with NUL is none of the file system; where nobody
listens, the driver keeps trying. -/
def connectSocket (around : Surroundings) (path : List Char) : Except DriverError Unit :=
  if around.sockets path then .ok ()
  else if path.head? = some '\x00' then .error .poolTimedOut
  else if path.contains '\x00' then .error (.io "paths must not contain interior null bytes")
  else if 108 ≤ (utf8 path).length then .error (.io "path must be shorter than SUN_LEN")
  else match (Place.ofPath path).obstacleTo? around.files with
    | some obstacle => .error (.io obstacle.message)
    | none => .error .poolTimedOut

/-- Connecting to a server. -/
def connectServer (around : Surroundings) (kind : Sql.Dialect) (url : Url) :
    Except DriverError Unit :=
  match Address.ofUrl kind url with
  | .error problem => .error (.configuration problem.message)
  | .ok address =>
    match address.socketPath? kind with
    | some path => connectSocket around path
    | none => if around.hosts address.host then .ok () else .error .poolTimedOut

/-- A text without all repetitions of a beginning, taken off while any are left. -/
def dropRepeated (beginning : List Char) : (fuel : Nat) → List Char → List Char
  | 0, s => s
  | fuel + 1, s =>
    match dropPrefix? beginning s with
    | some rest => dropRepeated beginning fuel rest
    | none => s

/-- The name of the database in a SQLite connection string. -/
def databaseName (dsn : List Char) : List Char :=
  let behind := dropRepeated "sqlite:".toList dsn.length
    (dropRepeated "sqlite://".toList dsn.length dsn)
  (cut? '?' behind).elim behind (·.1)

/-- Opening the SQLite database at a path.  Without a path it is a temporary one. -/
def openFile (around : Surroundings) (path : List Char) : Except DriverError Unit :=
  if path.contains '\x00' then
    .error (.io "filename passed to SQLite must not contain nul bytes")
  else if path = [] ∨ path = Target.inMemory ∨ (Place.ofPath path).admitsFile around.files then
    .ok ()
  else .error .cannotOpen

/-- Connecting to the SQLite database of a name, which is its path as a URL spells it. -/
def connectSqlite (around : Surroundings) (name : List Char) : Except DriverError Unit :=
  let bytes := Url.unescape (utf8 name)
  match utf8Fault? bytes with
  | some fault => .error (.configuration fault.message)
  | none => openFile around (readUtf8 bytes)

/-- The backend whose driver takes the URLs of a scheme. -/
def driver? (scheme : List Char) : Option Sql.Dialect :=
  if scheme = "sqlite".toList then some .sqlite
  else if scheme = "postgres".toList ∨ scheme = "postgresql".toList then some .postgres
  else if scheme = "mysql".toList ∨ scheme = "mariadb".toList then some .mysql
  else none

/-- Connecting with a connection string.  It is read as a URL first, the scheme of which decides
which driver it is for. -/
def connect (around : Surroundings) (dsn : List Char) : Except DriverError Unit :=
  match Url.parse dsn with
  | .error reason => .error (.configuration reason.message)
  | .ok url =>
    match driver? url.scheme with
    | some .sqlite => connectSqlite around (databaseName url.text)
    | some kind => connectServer around kind url
    | none =>
      .error (.configuration
        ("no driver found for URL scheme " ++ quoted (String.ofList url.scheme)))

/-! ## opening -/

/-- The surroundings after the directory of a target's database file has been made. -/
def makeDirectory (around : Surroundings) (target : Target) : Except Place.Obstacle Surroundings :=
  match target.file.bind fun path => (Place.ofPath path).parent? with
  | none => .ok around
  | some directory =>
    match directory.obstacleToMaking? around.files with
    | some obstacle => .error obstacle
    | none => .ok { around with files := directory.making around.files }

/-- Opening a target with the store of a backend. -/
def openTarget (around : Surroundings) (dialect : Sql.Dialect) (target : Target)
    (settings : PoolSettings) : Except StoreError Opened :=
  if target.kind ≠ dialect then
    .error (.config (target.kind.name ++ " url cannot open a " ++ dialect.name ++ " store"))
  else match makeDirectory around target with
    | .error obstacle => .error (.io obstacle.message)
    | .ok around =>
      match connect around target.dsn with
      | .error source => .error (.connection (String.ofList target.redacted) source)
      | .ok () => .ok ⟨dialect, Pool.size dialect settings⟩

/-- Opening the target of a URL with the store of its own backend. -/
def openUrl (around : Surroundings) (url : String) (settings : PoolSettings) :
    Except StoreError Opened := do
  let target ← Target.parse url.toList
  openTarget around target.kind target settings

/-- Opening the store that a configuration describes. -/
def openConfigured (around : Surroundings) (config : Configuration) : Except StoreError Opened :=
  match config.problem? with
  | some problem => .error (.config problem.message)
  | none => openUrl around config.url config.pool

end Opening

end NarIndex
