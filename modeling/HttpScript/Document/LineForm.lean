import HttpScript.Document.Line
import HttpScript.Text.Word

/-!
# Forms of lines

The trimmed content of a line decides what the line is: a separator, a comment and perhaps a
directive in it, a declaration, a request line or a header.  Separators, comments and declarations
exclude one another by their first characters.
-/

namespace HttpScript.LineForm

/-- The line between two blocks. -/
def separator : Text := "###"

/-- Whether a line separates two blocks. -/
def isSeparator (content : Text) : Bool :=
  content = separator

/-- The text of a comment: what stands after a single `#` or after `//`. -/
def comment? : Text → Option Text
  | '#' :: '#' :: _ => none
  | '#' :: text => some text
  | '/' :: '/' :: text => some text
  | _ => none

/-- Whether a line is a comment. -/
def isComment (content : Text) : Bool :=
  (comment? content).isSome

/-- A name marked by `@`, or by `@@` when it is shared by all blocks, and what stands after it. -/
structure Marked where
  isGlobal : Bool
  name : Text
  rest : Text
deriving DecidableEq, Repr

/-- Splits a name from what stands after it. -/
def splitName (isGlobal : Bool) : Text → Option Marked
  | c :: rest =>
      if Text.isNameStart c then
        let (inner, rest) := rest.span Text.isWord
        some ⟨isGlobal, c :: inner, rest⟩
      else none
  | [] => none

/-- Splits a marked name from what stands after it. -/
def marked? : Text → Option Marked
  | '@' :: '@' :: text => splitName true text
  | '@' :: text => splitName false text
  | _ => none

/-- The directive of a comment: a marked name, alone or with a value after a blank character. -/
def directive? (comment : Text) : Option Marked := do
  let marked ← marked? (Text.trimStart comment)
  match marked.rest with
  | [] => some marked
  | c :: _ => if Text.isBlank c then some marked else none

/-- The value of a directive, if it has one. -/
def Marked.value? (marked : Marked) : Option Text :=
  let value := Text.trim marked.rest
  if value.isEmpty then none else some value

/-- The declaration on a line: a marked name, alone or with a value after `=`. -/
def declaration? (content : Text) : Option (Marked × Option Text) := do
  let marked ← marked? content
  match Text.trimStart marked.rest with
  | [] => some (marked, none)
  | '=' :: value => some (marked, some (Text.trim value))
  | _ => none

/-- The method and the address of a request line. -/
def requestLine? (content : Text) : Option (Text × Text) :=
  let (method, rest) := content.span Char.isUpper
  match rest with
  | c :: _ => if !method.isEmpty && Text.isBlank c then some (method, Text.trim rest) else none
  | [] => none

/-- A character that may stand in the name of a header. -/
def isHeaderChar (c : Char) : Bool :=
  Text.isWord c || c == '-'

/-- The name and the value of a header. -/
def header? (content : Text) : Option (Text × Text) :=
  let (name, rest) := content.span isHeaderChar
  match Text.trimStart rest with
  | ':' :: value => if name.isEmpty then none else some (name, Text.trim value)
  | _ => none

end HttpScript.LineForm
