import HttpScript.Yaml.Place
import HttpScript.Yaml.Scalar

/-!
# Words

A word is written bare or between quotes, over one line or several.  Lines are folded: a single line
break stands for a space, of several the first means nothing, and blanks around them are dropped.
A bare word goes on while its lines are indented further than what it belongs to; inside brackets
indentation means nothing, but commas and brackets end the word.
-/

namespace HttpScript.Yaml

/-- A word that was read. -/
structure Word where
  value : Json
  /-- Whether the word stands on one line. -/
  oneLine : Bool
  /-- The place after the word. -/
  after : Place

/-- Whether a line begins with a marker that begins or ends a document. -/
def beginsMarker (line : Text) : Bool :=
  (Place.start line).isMarker '-' || (Place.start line).isMarker '.'

/-- What the line breaks between two lines of a word stand for. -/
def foldBreaks : List Char → Text
  | [] => []
  | first :: more =>
      (if first ≠ '\n' then [first] else if more.isEmpty then [' '] else []) ++ more

/-- Whether two places, the first not after the second, are on one line. -/
def onOneLine (before after : Place) : Bool :=
  !(before.rest.take (before.rest.length - after.rest.length)).any isBreak

/-! ## Bare words -/

/-- The characters that end a bare word inside brackets. -/
def bracketMarks : List Char :=
  [',', '?', '[', ']', '\x7b', '\x7d']

/-- The characters that end a word inside brackets after a colon. -/
def closingMarks : List Char :=
  [',', '[', ']', '\x7b', '\x7d']

/-- Whether a piece of a bare word ends before a text. -/
def endsPiece (inBrackets : Bool) (text : Text) : Bool :=
  match text with
  | [] => true
  | ':' :: rest => endsToken rest || (inBrackets && rest.head?.any closingMarks.contains)
  | c :: rest => endsToken (c :: rest) || (inBrackets && bracketMarks.contains c)

/-- A piece of a bare word, without blanks, and what follows it. -/
def takePiece (inBrackets : Bool) : Text → Text × Text
  | [] => ([], [])
  | c :: rest =>
      if endsPiece inBrackets (c :: rest) then ([], c :: rest)
      else
        let (piece, left) := takePiece inBrackets rest
        (c :: piece, left)

/-- The line breaks between two pieces of a bare word and the place after them; nothing if a marker
follows one of them. -/
def bareBreaks (column : Nat) : Text → Option (List Char × Place)
  | [] => some ([], { rest := [], column })
  | c :: rest =>
      if isBreak c then
        if beginsMarker rest then none
        else (bareBreaks 0 rest).map fun (breaks, place) => (breakChar c :: breaks, place)
      else if c = ' ' then bareBreaks (column + 1) rest
      else some ([], { rest := c :: rest, column })

/-- What stands between two pieces of a bare word, and the place of the second. -/
def bareGap (place : Place) : Option (Text × Place) :=
  match bareBreaks place.column place.rest with
  | none => none
  | some ([], next) =>
      if next.column = place.column then none
      else some (List.replicate (next.column - place.column) ' ', next)
  | some (breaks, next) => some (foldBreaks breaks, next)

/-- The further pieces of a bare word with what stands between them, and the place after them.  At
most `fuel` pieces are read. -/
def barePieces (inBrackets : Bool) (indent : Int) : Nat → Place → Text × Place
  | 0, place => ([], place)
  | fuel + 1, place =>
      match bareGap place with
      | none => ([], place)
      | some (gap, next) =>
          let (piece, left) := takePiece inBrackets next.rest
          if next.rest.head? = some '#' || (!inBrackets && (next.column : Int) ≤ indent) ||
              piece.isEmpty then
            ([], place)
          else
            let (more, after) :=
              barePieces inBrackets indent fuel
                { rest := left, column := next.column + piece.length }
            (gap ++ piece ++ more, after)

/-- Whether a bare word can begin with a text. -/
def beginsBare (inBrackets : Bool) : Text → Bool
  | [] => false
  | c :: rest =>
      if c = '-' || (!inBrackets && (c = '?' || c = ':')) then !endsToken rest
      else !endsToken (c :: rest) &&
        !(bracketMarks ++ [':', '#', '&', '*', '!', '|', '>', '\'', '"', '%', '@',
          Char.ofNat 0x60]).contains c

/-- Reads a bare word that belongs to something of an indentation. -/
def readBare (inBrackets : Bool) (indent : Int) (place : Place) : Option Word :=
  let (piece, left) := takePiece inBrackets place.rest
  let (more, after) :=
    barePieces inBrackets indent place.rest.length
      { rest := left, column := place.column + piece.length }
  (scalarValue (piece ++ more)).map fun value =>
    { value, oneLine := onOneLine place after, after }

/-! ## Words in quotes -/

/-- What a character stands for after a backslash. -/
def escapes : List (Char × Nat) :=
  [('0', 0x00), ('a', 0x07), ('b', 0x08), ('t', 0x09), ('\t', 0x09), ('n', 0x0A), ('v', 0x0B),
    ('f', 0x0C), ('r', 0x0D), ('e', 0x1B), (' ', 0x20), ('"', 0x22), ('\\', 0x5C), ('/', 0x2F),
    ('N', 0x85), ('_', 0xA0), ('L', 0x2028), ('P', 0x2029)]

/-- How many hexadecimal digits follow a character after a backslash. -/
def codeWidths : List (Char × Nat) :=
  [('x', 2), ('u', 4), ('U', 8)]

/-- The blanks and the line breaks at the front of a text and the place after them; nothing if a
marker follows a line break. -/
def quotedBlanks (column : Nat) : Text → Option (Text × List Char × Place)
  | [] => some ([], [], { rest := [], column })
  | c :: rest =>
      if isBreak c then
        if beginsMarker rest then none
        else (quotedBlanks 0 rest).map fun (_, breaks, place) => ([], breakChar c :: breaks, place)
      else if c = ' ' || c = '\t' then
        (quotedBlanks (column + 1) rest).map fun (blanks, breaks, place) =>
          (c :: blanks, breaks, place)
      else some ([], [], { rest := c :: rest, column })

/-- What follows a backslash: the text that is meant, and the place after it. -/
def readEscape (place : Place) : Option (Text × Place) :=
  match place.rest with
  | [] => none
  | c :: rest =>
      if isBreak c then
        (quotedBlanks place.column place.rest).map fun (_, breaks, next) => (breaks.tail, next)
      else match escapes.lookup c with
        | some code => some ([Char.ofNat code], place.forward 1)
        | none =>
            match codeWidths.lookup c with
            | none => none
            | some width =>
                let digits := rest.take width
                if digits.length = width && digits.all (isDigitOf 16) &&
                    (numberOf 16 digits).isValidChar then
                  some ([Char.ofNat (numberOf 16 digits)], place.forward (width + 1))
                else none

/-- The rest of a word in quotes and the place after the closing quote.  At most `fuel` steps are
taken. -/
def quotedPieces (quote : Char) : Nat → Place → Option (Text × Place)
  | 0, _ => none
  | fuel + 1, place =>
      match place.rest with
      | [] => none
      | c :: rest =>
          if c = quote then
            if quote = '\'' && rest.head? = some '\'' then
              (quotedPieces quote fuel (place.forward 2)).map fun (more, after) =>
                ('\'' :: more, after)
            else some ([], place.forward 1)
          else if endsToken (c :: rest) then do
            let (blanks, breaks, next) ← quotedBlanks place.column place.rest
            let (more, after) ← quotedPieces quote fuel next
            return ((if breaks.isEmpty then blanks else foldBreaks breaks) ++ more, after)
          else if quote = '"' && c = '\\' then do
            let (meant, next) ← readEscape (place.forward 1)
            let (more, after) ← quotedPieces quote fuel next
            return (meant ++ more, after)
          else
            (quotedPieces quote fuel (place.forward 1)).map fun (more, after) => (c :: more, after)

/-- Reads a word in quotes from its opening quote on. -/
def readQuoted (quote : Char) (place : Place) : Option Word :=
  (quotedPieces quote place.rest.length (place.forward 1)).map fun (text, after) =>
    { value := .str text, oneLine := onOneLine place after, after }

/-- Reads a word of either kind. -/
def readWord (inBrackets : Bool) (indent : Int) (place : Place) : Option Word :=
  match place.rest.head? with
  | some '"' => readQuoted '"' place
  | some '\'' => readQuoted '\'' place
  | _ => if beginsBare inBrackets place.rest then readBare inBrackets indent place else none

end HttpScript.Yaml
