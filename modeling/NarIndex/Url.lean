import NarIndex.Url.Form
import NarIndex.Url.Host
import NarIndex.Url.Path

/-!
# NarIndex.Url

URLs as values, and their text.  All texts in a `Url` are escaped already, each with the set of its
component, so that printing only puts them together.
-/

namespace NarIndex

/-- Who to speak to, and where.  A password is never empty. -/
structure Url.Authority where
  username : List Char := []
  password : Option (List Char) := none
  host : Url.Host
  port : Option Nat := none
  deriving DecidableEq, Repr

/-- A URL. -/
structure Url where
  scheme : List Char
  authority : Option Url.Authority := none
  path : Url.Path
  query : Option (List Char) := none
  fragment : Option (List Char) := none
  deriving DecidableEq, Repr

namespace Url

/-! ## printing -/

/-- User name and password with the at sign behind them; nothing if there is neither. -/
def Authority.userinfo (authority : Authority) : List Char :=
  match authority.password with
  | some password => authority.username ++ ':' :: password ++ ['@']
  | none => if authority.username.isEmpty then [] else authority.username ++ ['@']

/-- An authority as text. -/
def Authority.text (authority : Authority) : List Char :=
  authority.userinfo ++ authority.host.text
    ++ match authority.port with
      | some port => ':' :: Nat.toDigits 10 port
      | none => []

/-- Authority and path as text.  Without an authority, a path that starts with two slashes has `/.`
before it, so that it does not read as an authority. -/
def location (url : Url) : List Char :=
  match url.authority with
  | some authority => '/' :: '/' :: authority.text ++ url.path.text
  | none =>
    match url.path with
    | .rooted ([] :: segment :: segments) =>
      '/' :: '.' :: (Path.rooted ([] :: segment :: segments)).text
    | path => path.text

/-- A component with a mark before it, if there is one. -/
def marked (mark : Char) : Option (List Char) → List Char
  | some component => mark :: component
  | none => []

def text (url : Url) : List Char :=
  url.scheme ++ ':' :: url.location ++ marked '?' url.query ++ marked '#' url.fragment

/-! ## parts -/

/-- The user name, empty if there is none. -/
def username (url : Url) : List Char :=
  (url.authority.map (·.username)).getD []

def password (url : Url) : Option (List Char) :=
  url.authority.bind (·.password)

def host (url : Url) : Option Host :=
  url.authority.map (·.host)

def port (url : Url) : Option Nat :=
  url.authority.bind (·.port)

def pairs (url : Url) : List Form.Pair :=
  (url.query.map Form.read).getD []

/-! ## changing parts -/

/-- A URL with a password in place of its own; without an authority it has no place for one. -/
def withPassword (url : Url) (password : List Char) : Url :=
  { url with
    authority := url.authority.map fun a =>
      { a with password := some (escape inUserinfoSet password) } }

/-- A URL with the path that has the given text behind its root.  A path without a root keeps none,
so that the slash is escaped; the point that goes before a path with two leading slashes stays. -/
def withPath (url : Url) (s : List Char) : Url :=
  match url.authority, url.path, Path.root s with
  | none, .rooted ([] :: _ :: _), .rooted segments =>
    { url with path := .rooted (['.'] :: segments) }
  | _, .rooted _, path => { url with path }
  | _, .unrooted _, _ => { url with path := .unrooted ("%2F".toList ++ escape isControl s) }

/-- A URL with a query of the given pairs. -/
def withPairs (url : Url) (pairs : List Form.Pair) : Url :=
  { url with query := some (Form.write pairs) }

end Url

end NarIndex
