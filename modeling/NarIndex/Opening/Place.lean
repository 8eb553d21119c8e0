import NarIndex.Text.Split
import NarIndex.Text.Utf8

/-!
# NarIndex.Opening.Place

Places in a file system, and what is met on the way to one of them.  A path is followed part by
part; `..` leads one level up from wherever the parts before it led.  A file system is known by what
it has at each place; a place inside a file is none.
-/

namespace NarIndex

open NarIndex.Text

/-- A path without the parts of it that lead nowhere. -/
structure Place where
  absolute : Bool
  parts : List (List Char)
  deriving DecidableEq, Repr

/-- What stands at a place. -/
inductive Place.Entry where
  | directory
  | file
  deriving DecidableEq, Repr

/-- What stands at each place that is taken. -/
abbrev FileSystem := Place → Option Place.Entry

namespace Place

/-! ## routes -/

def ofPath (path : List Char) : Place :=
  ⟨path.head? == some '/', (splitOn '/' path).filter fun part => part ≠ [] ∧ part ≠ ['.']⟩

/-- The place one level up in the path; the root, and the place that a relative path starts from,
have none. -/
def parent? (place : Place) : Option Place :=
  if place.parts.length ≤ (if place.absolute then 0 else 1) then none
  else some { place with parts := place.parts.dropLast }

/-- The part that leads one level up. -/
def upward : List Char :=
  ['.', '.']

/-- Where a part leads from a place.  Above the root is the root; above the place that relative
paths start from, every level has a name of its own. -/
def step (place : Place) (part : List Char) : Place :=
  if part = upward ∧ place.parts.getLast?.any (· ≠ upward) then
    { place with parts := place.parts.dropLast }
  else if part = upward ∧ place.absolute then place
  else { place with parts := place.parts ++ [part] }

/-- The places to which parts lead from a place, one after the other. -/
def routeFrom (place : Place) : List (List Char) → List Place
  | [] => []
  | part :: parts => place.step part :: routeFrom (place.step part) parts

/-- The places on the way to a place, and this place at the end. -/
def route (place : Place) : List Place :=
  routeFrom ⟨place.absolute, []⟩ place.parts

theorem length_routeFrom (place : Place) (parts : List (List Char)) :
    (routeFrom place parts).length = parts.length := by
  induction parts generalizing place with
  | nil => rfl
  | cons part parts ih => simp [routeFrom, ih]

/-! ## obstacles -/

/-- What can keep a path from being used. -/
inductive Obstacle where
  | nulByte
  | nameTooLong
  | noEntry
  | notDirectory
  | fileExists
  deriving DecidableEq, Repr

/-- The wording of an obstacle. -/
def Obstacle.message : Obstacle → String
  | .nulByte => "file name contained an unexpected NUL byte"
  | .nameTooLong => "File name too long (os error 36)"
  | .noEntry => "No such file or directory (os error 2)"
  | .notDirectory => "Not a directory (os error 20)"
  | .fileExists => "File exists (os error 17)"

/-- Whether the name of a place is longer than 255 bytes. -/
def isTooLong (place : Place) : Bool :=
  place.parts.getLast?.any fun part => 255 < (utf8 part).length

/-- What keeps a path from leading on through a place. -/
def blocks? (files : FileSystem) (place : Place) : Option Obstacle :=
  if place.isTooLong then some .nameTooLong
  else match files place with
    | some .directory => none
    | some .file => some .notDirectory
    | none => some .noEntry

/-- What keeps a path from leading to where its last part is looked up. -/
def obstacleBefore? (files : FileSystem) (place : Place) : Option Obstacle :=
  place.route.dropLast.findSome? (blocks? files)

/-- What keeps something from being found at a place. -/
def obstacleTo? (files : FileSystem) (place : Place) : Option Obstacle :=
  (place.obstacleBefore? files).or (place.route.getLast?.bind fun last =>
    if last.isTooLong then some .nameTooLong
    else if files last = none then some .noEntry
    else none)

/-- Whether a database file can be opened at a place, or made there. -/
def admitsFile (files : FileSystem) (place : Place) : Bool :=
  (place.obstacleBefore? files).isNone
    && place.route.getLast?.any fun last => !last.isTooLong && files last != some .directory

/-! ## making directories -/

/-- What keeps the directories of a route from being made, one after the other.  A file stops a path
that leads through it, unless a directory had to be made before it was met: then the file itself is
where the next one was to be made. -/
def obstacleAlong? (files : FileSystem) (made : Bool) : List Place → Option Obstacle
  | [] => none
  | place :: route =>
    if place.isTooLong then some .nameTooLong
    else match files place with
      | some .file => some (if route.isEmpty || made then .fileExists else .notDirectory)
      | some .directory => obstacleAlong? files made route
      | none => obstacleAlong? files true route

/-- What keeps a directory, with all directories on the way to it, from being made; nothing does if
it is there. -/
def obstacleToMaking? (files : FileSystem) (place : Place) : Option Obstacle :=
  if place.parts.any (·.contains '\x00') then some .nulByte
  else obstacleAlong? files false place.route

/-- A file system with directories all the way to a place. -/
def making (place : Place) (files : FileSystem) : FileSystem :=
  fun other => if other ∈ place.route then some .directory else files other

end Place

end NarIndex
