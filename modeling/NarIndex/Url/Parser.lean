import NarIndex.Text.Blank
import NarIndex.Text.Case
import NarIndex.Url

/-!
# NarIndex.Url.Parser

Reading URLs.  A few schemes are special: they always have a host, their path is never empty, a
backslash counts as a slash, and each has a port that need not be written.  All other schemes are
plain.
-/

namespace NarIndex.Url

open NarIndex.Text

/-! ## schemes -/

/-- What a scheme asks of its URLs. -/
inductive SchemeClass where
  | special (port : Nat)
  | file
  | plain
  deriving DecidableEq, Repr

/-- The class of a scheme in lower case. -/
def SchemeClass.ofScheme (scheme : List Char) : SchemeClass :=
  if scheme = "http".toList ∨ scheme = "ws".toList then .special 80
  else if scheme = "https".toList ∨ scheme = "wss".toList then .special 443
  else if scheme = "ftp".toList then .special 21
  else if scheme = "file".toList then .file
  else .plain

/-- Whether a character may stand in a scheme. -/
def isSchemeChar (c : Char) : Bool :=
  c.isAlphanum || c == '+' || c == '-' || c == '.'

/-- The scheme of a text, in lower case, and the text behind its colon. -/
def readScheme? (s : List Char) : Option (List Char × List Char) :=
  match cut? ':' s with
  | some (first :: more, rest) =>
    if first.isAlpha && more.all isSchemeChar then some (toLower (first :: more), rest) else none
  | _ => none

/-! ## the text behind the scheme -/

/-- A text without the controls and blanks around it, and without tabs and line ends in it. -/
def clean (s : List Char) : List Char :=
  (trimWhile (·.toNat ≤ 0x20) s).filter fun c => c ∉ ['\t', '\n', '\r']

/-- A text cut into what stands before the query, the query, and the fragment. -/
structure Sections where
  body : List Char
  query : Option (List Char)
  fragment : Option (List Char)

/-- The text up to a mark, and the text behind it if the mark is there. -/
def cutOff (mark : Char) (s : List Char) : List Char × Option (List Char) :=
  match cut? mark s with
  | some (front, rest) => (front, some rest)
  | none => (s, none)

/-- The sections of a text. -/
def Sections.of (s : List Char) : Sections :=
  let (front, fragment) := cutOff '#' s
  let (body, query) := cutOff '?' front
  ⟨body, query, fragment⟩

/-- Whether something stands behind the body. -/
def Sections.continues (sections : Sections) : Bool :=
  sections.query.isSome || sections.fragment.isSome

/-! ## authority -/

/-- The text up to the first slash, and the text from there on. -/
def beforeSlash (s : List Char) : List Char × List Char :=
  (s.takeWhile (· != '/'), s.dropWhile (· != '/'))

/-- The text of a host and the text behind it, which starts with the first colon outside
brackets. -/
def splitHost (bracketed : Bool) : List Char → List Char × List Char
  | [] => ([], [])
  | c :: s =>
    if c = ':' ∧ !bracketed then ([], c :: s)
    else
      let (host, rest) :=
        splitHost (if c = '[' then true else if c = ']' then false else bracketed) s
      (c :: host, rest)

/-- A port and the text behind it, which is empty or starts with a backslash. -/
def readPort (s : List Char) : Except ParseError (Option Nat × List Char) :=
  let digits := s.takeWhile Char.isDigit
  let rest := s.dropWhile Char.isDigit
  let port := decimal digits
  if 65535 < port then .error .invalidPort
  else match rest with
    | [] => .ok (if digits.isEmpty then none else some port, [])
    | c :: rest =>
      if c = '\\' then .ok (if digits.isEmpty then none else some port, c :: rest)
      else .error .invalidPort

/-- User name and password that the text before the at sign spells. -/
def readUserinfo (s : List Char) : List Char × Option (List Char) :=
  let (user, password) := cutOff ':' s
  (escape inUserinfoSet user,
    match password with
    | none | some [] => none
    | some password => some (escape inUserinfoSet password))

/-- The authority that a text spells, and the text behind the port.  `more` says whether the URL
goes on behind that text: an at sign with nothing before it may stand at the very end only. -/
def readAuthority (special more : Bool) (s : List Char) :
    Except ParseError (Authority × List Char) := do
  let (user, address) := match cutLast? '@' s with
    | some (user, address) => (some user, address)
    | none => (none, s)
  if user = some [] ∧ address = [] ∧ more then throw .emptyHost
  let (username, password) := readUserinfo (user.getD [])
  let (hostText, portText) := splitHost false address
  if special ∧ hostText = [] then throw .emptyHost
  let host ← if special then Host.parseSpecial hostText else Host.parsePlain hostText
  if host.isEmpty ∧ portText ≠ [] then throw .emptyHost
  let (port, rest) ← readPort (portText.drop 1)
  if host.isEmpty ∧ (!username.isEmpty || password.isSome) then throw .emptyHost
  return (⟨username, password, host, port⟩, rest)

/-! ## the whole -/

/-- The path behind an authority of a plain scheme. -/
def pathBehind : List Char → Path
  | [] => .rooted []
  | c :: s => if c = '/' then Path.root s else Path.root (c :: s)

/-- A text with every backslash as a slash. -/
def straighten (s : List Char) : List Char :=
  s.map fun c => if c = '\\' then '/' else c

/-- Authority and path of a plain scheme. -/
def readPlain (sections : Sections) : Except ParseError (Option Authority × Path) :=
  match sections.body with
  | '/' :: '/' :: s => do
    let (front, back) := beforeSlash s
    let (authority, rest) ← readAuthority false (!back.isEmpty || sections.continues) front
    return (some authority, pathBehind (rest ++ back))
  | '/' :: s => .ok (none, Path.root s)
  | s => .ok (none, Path.free s)

/-- Authority and path of a special scheme with the port it need not write. -/
def readSpecial (defaultPort : Nat) (sections : Sections) :
    Except ParseError (Option Authority × Path) := do
  let (front, back) := beforeSlash ((straighten sections.body).dropWhile (· == '/'))
  let (authority, _) ← readAuthority true (!back.isEmpty || sections.continues) front
  let port := authority.port.filter (· != defaultPort)
  return (some { authority with port }, Path.root (back.drop 1))

/-- Authority and path of a file: the authority is a host alone, and `localhost` is none. -/
def readFile (sections : Sections) : Except ParseError (Option Authority × Path) :=
  let path (s : List Char) := Path.root (s.dropWhile (· == '/'))
  match straighten sections.body with
  | '/' :: '/' :: s => do
    let (front, back) := beforeSlash s
    if front.isEmpty then return (some ⟨[], none, .name [], none⟩, path back)
    else if front.length = 2 ∧ Path.isDrive front then
      return (some ⟨[], none, .name [], none⟩, path s)
    else
      let host ← Host.parseSpecial front
      let host := if host = .name "localhost".toList then .name [] else host
      return (some ⟨[], none, host, none⟩, path back)
  | s => .ok (some ⟨[], none, .name [], none⟩, path s)

/-- The URL that a text spells. -/
def parse (s : List Char) : Except ParseError Url := do
  let some (scheme, rest) := readScheme? (clean s) | throw .relativeWithoutBase
  let sections := Sections.of rest
  let kind := SchemeClass.ofScheme scheme
  let (authority, path) ← match kind with
    | .special port => readSpecial port sections
    | .file => readFile sections
    | .plain => readPlain sections
  let querySet := if kind = .plain then inQuerySet else inSpecialQuerySet
  return {
    scheme, authority, path
    query := sections.query.map (escape querySet)
    fragment := sections.fragment.map (escape inFragmentSet) }

end NarIndex.Url
