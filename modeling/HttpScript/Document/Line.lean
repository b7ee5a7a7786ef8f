import HttpScript.Text.Blank
import HttpScript.Text.Lines

/-!
# Numbered lines

A document is read line by line, and whatever is wrong with it is reported with the number of a
line, so each line carries its number.  `LineView` is a place among the lines of a document: the
lines passed, and the lines ahead with the current one first.
-/

namespace HttpScript

/-- A line of a document as it was written, with its number counted from one. -/
structure Line where
  number : Nat
  raw : Text
deriving DecidableEq, Repr

namespace Line

/-- The content of a line: what is left when it is trimmed. -/
def content (line : Line) : Text :=
  Text.trim line.raw

/-- Whether nothing is left of a line when it is trimmed. -/
def isBlank (line : Line) : Bool :=
  line.content.isEmpty

/-- Numbers lines from a given number on. -/
def numberFrom (number : Nat) : List Text → List Line
  | [] => []
  | raw :: rest => ⟨number, raw⟩ :: numberFrom (number + 1) rest

/-- The lines of a document; a document that is missing or empty has none. -/
def ofText (text : Text) : List Line :=
  if text.isEmpty then [] else numberFrom 1 (Text.lines text)

end Line

/-- A place in a document: the lines before it, nearest first, and the lines from it on. -/
structure LineView where
  passed : List Line
  ahead : List Line
deriving DecidableEq, Repr

namespace LineView

/-- The beginning of a document. -/
def ofText (text : Text) : LineView :=
  ⟨[], Line.ofText text⟩

/-- Whether every line was passed. -/
def atEnd (view : LineView) : Bool :=
  view.ahead.isEmpty

/-- The number of the current line, or of the line that would follow the last one. -/
def lineNumber (view : LineView) : Nat :=
  view.passed.length + 1

/-- The current line. -/
def current? (view : LineView) : Option Line :=
  view.ahead.head?

/-- The line a number of lines further on, or further back when the number is negative. -/
def peek? (view : LineView) : Int → Option Line
  | .ofNat offset => view.ahead[offset]?
  | .negSucc offset => view.passed[offset]?

/-- Whether there is a line at an offset and it is blank. -/
def isBlankAt (view : LineView) (offset : Int) : Bool :=
  (view.peek? offset).any Line.isBlank

/-- The current line and the place after it. -/
def next (view : LineView) : Option Line × LineView :=
  match view.ahead with
  | [] => (none, view)
  | line :: rest => (some line, ⟨line :: view.passed, rest⟩)

end LineView

end HttpScript
