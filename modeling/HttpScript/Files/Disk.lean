import HttpScript.Files.Path
import HttpScript.Text.Lines

/-!
# Files

What a command can read: the text files on a disk, each by the names that lead to it from the root,
and the working directory, from which paths are followed.  A directory is there if something lies
in it.  Every line break of a file that is read is `\n`.
-/

namespace HttpScript

/-- The text files that are there. -/
structure Disk where
  /-- The names that lead from the root to the working directory. -/
  workplace : List Text
  /-- Files by the names that lead to them from the root. -/
  files : List (List Text × Text)
  /-- Directories that are there though they may be empty. -/
  directories : List (List Text)

/-- What a path leads to. -/
inductive Entry
  | missing
  /-- A file stands where a directory is needed to go on. -/
  | blocked
  | directory
  | file (content : Text)
deriving DecidableEq

/-- Why a file cannot be read. -/
inductive AccessFault
  | missing
  | blocked
  | directory
deriving DecidableEq, Repr

/-- The wording of a fault. -/
def AccessFault.message : AccessFault → Text
  | .missing => "No such file or directory"
  | .blocked => "Not a directory"
  | .directory => "Is a directory"

/-- The text of what was found. -/
def Entry.read : Entry → Except AccessFault Text
  | .file content => .ok (Text.withPlainBreaks content)
  | .missing => .error .missing
  | .blocked => .error .blocked
  | .directory => .error .directory

namespace Disk

/-- Whether names lead to a directory. -/
def isDirectory (disk : Disk) (place : List Text) : Bool :=
  place.isPrefixOf disk.workplace ||
    (disk.directories.any fun names => place.isPrefixOf names) ||
    disk.files.any fun file => place.isPrefixOf file.1.dropLast

/-- What stands at the end of names that lead from the root. -/
def entryAt (disk : Disk) (place : List Text) : Entry :=
  match disk.files.find? fun file => file.1 = place with
  | some file => .file file.2
  | none => if disk.isDirectory place then .directory else .missing

/-- What parts of a path lead to from a place.  Each of them can only be followed from a
directory. -/
def walk (disk : Disk) (place : List Text) : List Text → Entry
  | [] => disk.entryAt place
  | part :: rest =>
      match disk.entryAt place with
      | .directory => walk disk (if Path.isIdle part then place else Path.follow place part) rest
      | .missing => .missing
      | _ => .blocked

/-- What a text leads to, followed as it is written; an empty text leads nowhere. -/
def find (disk : Disk) (text : Text) : Entry :=
  match text with
  | [] => .missing
  | '/' :: _ => disk.walk [] (Path.parts text)
  | _ => disk.walk disk.workplace (Path.parts text)

/-- What a path leads to. -/
def findPath (disk : Disk) (path : Path) : Entry :=
  disk.find path.toText

/-- Whether a path leads to something. -/
def holds (disk : Disk) (path : Path) : Bool :=
  match disk.findPath path with
  | .directory | .file _ => true
  | .missing | .blocked => false

end Disk

end HttpScript
