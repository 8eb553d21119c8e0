import NarIndex.Text.Split
import NarIndex.Url.Percent

/-!
# NarIndex.Url.Path

The path of a URL.  A rooted path is a list of segments, each printed with a slash before it, in
which the segments `.` and `..` have been resolved; a path without a root is a text of its own.
-/

namespace NarIndex.Url

open NarIndex.Text

/-- A path; its texts are escaped. -/
inductive Path where
  | unrooted (text : List Char)
  | rooted (segments : List (List Char))
  deriving DecidableEq, Repr

namespace Path

def text : Path → List Char
  | .unrooted text => text
  | .rooted segments => segments.flatMap ('/' :: ·)

/-! ## dot segments -/

/-- A segment with every escaped point as a point. -/
def unescapePoints : List Char → List Char
  | '%' :: '2' :: c :: s =>
    if c = 'e' ∨ c = 'E' then '.' :: unescapePoints s else '%' :: '2' :: unescapePoints (c :: s)
  | c :: s => c :: unescapePoints s
  | [] => []
termination_by s => s.length

/-- The segment for the current place, also in its escaped spellings. -/
def isDot (segment : List Char) : Bool :=
  unescapePoints segment == ['.']

/-- The segment for one place up, also in its escaped spellings. -/
def isDotDot (segment : List Char) : Bool :=
  unescapePoints segment == ['.', '.']

/-- A drive letter, with nothing or a backslash behind it; going up stops there. -/
def isDrive : List Char → Bool
  | [letter, mark] => letter.isAlpha && (mark == ':' || mark == '|')
  | letter :: mark :: '\\' :: _ => letter.isAlpha && (mark == ':' || mark == '|')
  | _ => false

/-- Segments, the last one first, after one step up. -/
def goUp : List (List Char) → List (List Char)
  | [] => []
  | top :: below => if isDrive top then top :: below else below

/-- The segments of a path on top of the resolved ones before them (the last one first), in their
order.  A dot segment at the end leaves an empty segment. -/
def resolveOnto : List (List Char) → List (List Char) → List (List Char)
  | done, [] => done.reverse
  | done, segment :: rest =>
    let last := if rest.isEmpty then [[]] else []
    if isDotDot segment then resolveOnto (last ++ goUp done) rest
    else if isDot segment then resolveOnto (last ++ done) rest
    else resolveOnto (segment :: done) rest

/-- Segments without dot segments. -/
def resolve (segments : List (List Char)) : List (List Char) :=
  resolveOnto [] segments

/-! ## reading -/

/-- The rooted path of a text whose leading slash has been read. -/
def root (s : List Char) : Path :=
  .rooted (resolve ((splitOn '/' s).map (escape inPathSet)))

/-- The path of a text that has no root. -/
def free (s : List Char) : Path :=
  .unrooted (escape isControl s)

end Path

end NarIndex.Url
