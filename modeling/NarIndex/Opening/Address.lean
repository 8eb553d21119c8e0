import NarIndex.Sql.Dialect
import NarIndex.Text.Case
import NarIndex.Text.Count
import NarIndex.Text.Quoted
import NarIndex.Url

/-!
# NarIndex.Opening.Address

Where the driver of a server connects to.  The driver reads its connection string from the front to
the back: host, user, password and database, and then the parameters in their order.  The first
thing in it that cannot be understood is its problem.
-/

namespace NarIndex

open NarIndex.Text

/-- Where the driver of a server connects to: the socket, if there is one, and else the host. -/
structure Address where
  host : List Char := []
  port : Nat
  /-- The path of the socket; for PostgreSQL, that of the directory it is in. -/
  socket : Option (List Char) := none
  /-- The character set that is asked for. -/
  charset : Option (List Char) := none
  deriving DecidableEq, Repr

namespace Address

/-! ## problems -/

/-- What a driver cannot understand. -/
inductive Problem where
  | illFormed (fault : Utf8Fault)
  | unknownMode (value : List Char)
  | invalidCount (fault : CountFault)
  | invalidIp
  | unknownCharset (name : List Char)
  deriving DecidableEq, Repr

/-- The wording of a problem. -/
def Problem.message : Problem → String
  | .illFormed fault => fault.message
  | .unknownMode value =>
    "error with configuration: unknown value " ++ quoted (String.ofList value)
      ++ " for \x60ssl_mode\x60"
  | .invalidCount fault => fault.message
  | .invalidIp => "invalid IP address syntax"
  | .unknownCharset name => "unsupported MySQL charset: " ++ String.ofList name

/-! ## values -/

/-- The values of a parameter that asks for encryption. -/
def encryptionModes : Sql.Dialect → List (List Char)
  | .sqlite => []
  | .postgres =>
    ["disable".toList, "allow".toList, "prefer".toList, "require".toList, "verify-ca".toList,
      "verify-full".toList]
  | .mysql =>
    ["disabled".toList, "preferred".toList, "required".toList, "verify_ca".toList,
      "verify_identity".toList]

/-- The character sets of MySQL. -/
def charsets : List (List Char) :=
  ["armscii8", "ascii", "big5", "binary", "cp1250", "cp1251", "cp1256", "cp1257", "cp850", "cp852",
    "cp866", "cp932", "dec8", "eucjpms", "euckr", "gb18030", "gb2312", "gbk", "geostd8", "greek",
    "hebrew", "hp8", "keybcs2", "koi8r", "koi8u", "latin1", "latin2", "latin5", "latin7", "macce",
    "macroman", "sjis", "swe7", "tis620", "ucs2", "ujis", "utf16", "utf16le", "utf32", "utf8",
    "utf8mb4"].map String.toList

/-- Whether a text is an IP address; one of version 4 has to be written as four decimal bytes. -/
def isIp (s : List Char) : Bool :=
  (Url.Ipv4.parse? s).any (Url.Ipv4.write · == s) || (Url.Ipv6.parse? s).isSome

/-- The text that an escaped part of a URL stands for. -/
def readPart (part : List Char) : Except Problem (List Char) :=
  let bytes := Url.unescape (utf8 part)
  match utf8Fault? bytes with
  | some fault => .error (.illFormed fault)
  | none => .ok (readUtf8 bytes)

/-- The number that a parameter has to be. -/
def readNumber (most : Nat) (value : List Char) : Except Problem Nat :=
  (readCount most value).mapError .invalidCount

/-! ## reading -/

/-- The port of a server that names none. -/
def defaultPort : Sql.Dialect → Nat
  | .mysql => 3306
  | _ => 5432

/-- The address in front of the parameters.  For PostgreSQL, a host that is an absolute path when
unescaped is the directory of a socket. -/
def ofAuthority (kind : Sql.Dialect) (url : Url) : Except Problem Address := do
  let host := (url.host.map (·.text)).getD []
  let port := url.port.getD (defaultPort kind)
  if kind = .postgres ∧ (Url.unescape (utf8 host)).head? = some 0x2F then
    return { port, socket := some (← readPart host) }
  else return { host, port }

/-- An address as a parameter changes it. -/
def withParameter (kind : Sql.Dialect) (address : Address) :
    Url.Form.Pair → Except Problem Address
  | (key, value) => do
    if key = "sslmode".toList ∨ key = "ssl-mode".toList then
      if (encryptionModes kind).contains (toLower value) then return address
      else throw (.unknownMode value)
    else if key = "statement-cache-capacity".toList then
      let _ ← readNumber 18446744073709551615 value
      return address
    else match kind with
      | .sqlite => return address
      | .postgres =>
        if key = "host".toList then
          if value.head? = some '/' then return { address with socket := some value }
          else return { address with host := value }
        else if key = "hostaddr".toList then
          if isIp value then return { address with host := value } else throw .invalidIp
        else if key = "port".toList then
          return { address with port := ← readNumber 65535 value }
        else return address
      | .mysql =>
        if key = "socket".toList then return { address with socket := some value }
        else if key = "charset".toList then return { address with charset := some value }
        else return address

/-- The address that a connection string names. -/
def ofUrl (kind : Sql.Dialect) (url : Url) : Except Problem Address := do
  let address ← ofAuthority kind url
  let _ ← readPart url.username
  let _ ← readPart (url.password.getD [])
  let _ ← readPart (url.path.text.dropWhile (· == '/'))
  let address ← url.pairs.foldlM (withParameter kind) address
  match address.charset with
  | some charset =>
    if charsets.contains charset then return address else throw (.unknownCharset charset)
  | none => return address

/-- The path of the socket to connect to. -/
def socketPath? (kind : Sql.Dialect) (address : Address) : Option (List Char) :=
  address.socket.map fun path =>
    if kind = .postgres then path ++ "/.s.PGSQL.".toList ++ Nat.toDigits 10 address.port else path

end Address

end NarIndex
