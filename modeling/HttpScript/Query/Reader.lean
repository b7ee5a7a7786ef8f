import HttpScript.Query.Basic
import HttpScript.Text.Digit

/-!
# Reading queries

A query is written as `$` with segments behind it: `.name`, `[0]`, `[1:3]`, `['name']`, `[*]` and
`..` for everything inside.  The `$` may be left out.  A name in digits is a list position.
-/

namespace HttpScript.Query

/-- Why a text is no query. -/
inductive ReadFault
  /-- The text has a part that is no segment. -/
  | malformed
  /-- A bound of a slice is a minus sign without digits. -/
  | loneSign
deriving DecidableEq, Repr

/-- A character that may stand in a name after a dot. -/
def isNameChar (c : Char) : Bool :=
  c != '.' && c != '[' && c != ']'

/-- The segment of a name after a dot. -/
def nameSegment (name : Text) : Segment :=
  let name := Text.trim name
  if name = ['*'] then .all
  else match Text.toInt? name with
    | some position => .index position
    | none => .key name

/-- A name after dots with what follows it, if there is one: a star stands alone. -/
def splitName : Text → Option (Text × Text)
  | '*' :: rest => some (['*'], rest)
  | text =>
      let (name, rest) := text.span isNameChar
      if name.isEmpty then none else some (name, rest)

/-- A bound of a slice, digits with or without a minus sign, or nothing. -/
def readBound (text : Text) : Except ReadFault (Option Int) :=
  if text.isEmpty then .ok none
  else match Text.toInt? text with
    | some bound => .ok (some bound)
    | none => .error .loneSign

/-- Whether a text could be a bound: digits, with at most a minus sign before them. -/
def isBound : Text → Bool
  | '-' :: digits => digits.all Text.isDigit
  | digits => digits.all Text.isDigit

/-- The segment of a bracket without quotes. -/
def bracketSegment (content : Text) : Except ReadFault Segment :=
  if content.isEmpty || content = ['*'] then .ok .all
  else
    let asSlice := match Text.splitAt? ':' content with
      | some (start, stop) => if isBound start && isBound stop then some (start, stop) else none
      | none => none
    match asSlice with
    | some (start, stop) => do return .slice (← readBound start) (← readBound stop)
    | none =>
        match Text.toInt? content with
        | some position => .ok (.index position)
        | none => .ok (.key content)

/-- The name between two quotes, if after the second one the bracket is closed. -/
def splitQuoted (quote : Char) (text : Text) : Option (Text × Text) := do
  let (name, rest) ← Text.splitAt? quote text
  match Text.trimStart rest with
  | ']' :: rest => some (name, rest)
  | _ => none

/-- The quoted name of a bracket, read after the opening bracket. -/
def splitQuotedName (text : Text) : Option (Text × Text) :=
  match Text.trimStart text with
  | '\'' :: rest => splitQuoted '\'' rest
  | '"' :: rest => splitQuoted '"' rest
  | _ => none

/-- The segments at the beginning of a text and what follows them. -/
def readSegment : Text → Except ReadFault (List Segment × Text)
  | '.' :: '.' :: rest =>
      match splitName rest with
      | some (name, rest) => .ok ([.descend, nameSegment name], rest)
      | none => .ok ([.descend], rest)
  | '.' :: rest =>
      match splitName rest with
      | some (name, rest) => .ok ([nameSegment name], rest)
      | none => .error .malformed
  | '[' :: rest =>
      match splitQuotedName rest with
      | some (name, rest) => .ok ([.key name], rest)
      | none =>
          match Text.splitAt? ']' rest with
          | some (content, rest) => do
              return ([← bracketSegment (Text.trim content)], rest)
          | none => .error .malformed
  | _ => .error .malformed

/-- The segments of a text; each takes a character at least. -/
def readSegments : Nat → Text → Except ReadFault (List Segment)
  | _, [] => .ok []
  | 0, _ => .error .malformed
  | fuel + 1, text => do
      let (segments, rest) ← readSegment text
      return segments ++ (← readSegments fuel rest)

/-- The text of the segments of a query: what follows its `$`, a dot supplied where it begins with
a name. -/
def segmentText (text : Text) : Text :=
  match Text.trim text with
  | '$' :: rest => rest
  | [] => []
  | c :: rest => if c = '.' || c = '[' then c :: rest else '.' :: c :: rest

/-- The segments of a query. -/
def read (text : Text) : Except ReadFault (List Segment) :=
  let segments := segmentText text
  readSegments segments.length segments

end HttpScript.Query
