import HttpScript.Text.Basic

/-!
# Paths

A path is the way to a file: the names of directories, separated by slashes, from the root or from
a working directory on.  Repeated slashes and the name `.` mean nothing; the name `..` is kept, for
it means something only when the path is resolved.
-/

namespace HttpScript

/-- The way to a file. -/
structure Path where
  /-- What the path begins with: nothing, one slash, or the two slashes that are kept apart from
  one. -/
  root : Text
  names : List Text
deriving DecidableEq

namespace Path

/-- The parts of a text between slashes, empty ones included. -/
def parts (text : Text) : List Text :=
  Text.splitAll '/' text

/-- Whether a part of a path means nothing. -/
def isIdle (name : Text) : Bool :=
  name.isEmpty || name = ['.']

/-- What a path begins with, by the number of slashes in front. -/
def rootOf : Nat → Text
  | 0 => []
  | 2 => ['/', '/']
  | _ => ['/']

/-- The path that a text denotes. -/
def ofText (text : Text) : Path :=
  { root := rootOf (text.takeWhile (· = '/')).length
    names := (parts text).filter fun name => !isIdle name }

/-- The text of a path; an empty path is written as a dot. -/
def toText (path : Path) : Text :=
  if path.root.isEmpty && path.names.isEmpty then ['.']
  else path.root ++ Text.join ['/'] path.names

/-- The path that begins at the root and follows names. -/
def absolute (names : List Text) : Path :=
  { root := ['/'], names }

/-- Follows one path and then another, which stands alone if it begins at the root. -/
def join (base path : Path) : Path :=
  if path.root.isEmpty then { base with names := base.names ++ path.names } else path

/-- Follows a name from a place; `..` leads one name back. -/
def follow (place : List Text) (name : Text) : List Text :=
  if name = ['.', '.'] then place.dropLast else place ++ [name]

/-- The names from the root to where a path leads, seen from a working directory. -/
def placeFrom (workplace : List Text) (path : Path) : List Text :=
  path.names.foldl follow (if path.root.isEmpty then workplace else [])

/-- The path from the root to where a path leads, seen from a working directory. -/
def resolve (workplace : List Text) (path : Path) : Path :=
  absolute (path.placeFrom workplace)

/-- The path to the directory that holds what a path leads to. -/
def parent (path : Path) : Path :=
  { path with names := path.names.dropLast }

end Path

end HttpScript
