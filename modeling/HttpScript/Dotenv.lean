import HttpScript.Table
import HttpScript.Text.Blank

/-!
# Files of environment variables

A file of environment variables is a list of statements `NAME=value`, one a line, perhaps after the
word `export`.  A value is bare, and then ends at a comment or at the end of the line, or stands
between quotes, and then may run over several lines.  A name without an equals sign has no value.  A
statement that cannot be read is left out together with the rest of its line.

After that `${NAME}` and `${NAME:-default}` in a value are replaced, whatever the quotes: by the
values given before in the file, or else by the process environment.
-/

namespace HttpScript.Dotenv

/-- What a statement says. -/
inductive Statement
  | variable (name : Text) (value : Option Text)
  /-- A blank line or a comment. -/
  | nothing
  /-- A statement that cannot be read, and the line from which on it was looked for. -/
  | unreadable (line : Nat)
deriving DecidableEq, Repr

/-! ## Lines -/

/-- A character that ends a line. -/
def isBreak (c : Char) : Bool :=
  c = '\n' || c = '\r'

/-- A blank character inside a line. -/
def isGap (c : Char) : Bool :=
  Text.isBlank c && !isBreak c

/-- The text after the blanks at its front, on the same line. -/
def skipGap (text : Text) : Text :=
  text.dropWhile isGap

/-- The text after the line break at its front. -/
def skipBreak : Text → Text
  | '\r' :: '\n' :: rest => rest
  | '\r' :: rest => rest
  | '\n' :: rest => rest
  | text => text

/-- The text after its first line. -/
def skipLine (text : Text) : Text :=
  skipBreak (text.dropWhile fun c => !isBreak c)

/-- The text after a comment, if there is one, and the end of the line; nothing if anything else
stands there. -/
def endLine? (text : Text) : Option Text :=
  let left := match skipGap text with
    | '#' :: rest => rest.dropWhile fun c => !isBreak c
    | rest => rest
  if left.head?.all isBreak then some (skipBreak left) else none

/-! ## Names -/

/-- The text after the word `export` and the blanks that must follow it. -/
def skipExport (text : Text) : Text :=
  match Text.after? "export" text with
  | some rest => if rest.head?.any isGap then skipGap rest else text
  | none => text

/-- A character of a name without quotes. -/
def isNameChar (c : Char) : Bool :=
  c ≠ '=' && c ≠ '#' && !Text.isBlank c

/-- The name at the front of a text and what follows it.  A comment stands for no name. -/
def readName (text : Text) : Option (Option Text × Text) :=
  match text with
  | '#' :: _ => some (none, text)
  | '\'' :: rest =>
      let (name, left) := rest.span (· ≠ '\'')
      if name.isEmpty || left.isEmpty then none else some (some name, left.drop 1)
  | _ =>
      let (name, left) := text.span isNameChar
      if name.isEmpty then none else some (some name, left)

/-! ## Values -/

/-- What stands before the first quote that no backslash precedes, and what follows that quote. -/
def splitAtQuote (quote : Char) (afterBackslash : Bool) : Text → Option (Text × Text)
  | [] => none
  | c :: rest =>
      if c = quote && !afterBackslash then some ([], rest)
      else (splitAtQuote quote (c = '\\') rest).map fun (before, after) => (c :: before, after)

/-- What stands before the last quote, and what follows that quote. -/
def splitAtLastQuote (quote : Char) (text : Text) : Option (Text × Text) :=
  (Text.splitAt? quote text.reverse).map fun (after, before) => (before.reverse, after.reverse)

/-- What stands before the closing quote and what follows it: a quote after a backslash closes only
if no other one does. -/
def closeQuote (quote : Char) (text : Text) : Option (Text × Text) :=
  (splitAtQuote quote false text).or (splitAtLastQuote quote text)

/-- What characters stand for after a backslash inside quotes of a kind. -/
def escapes (quote : Char) : List (Char × Char) :=
  if quote = '"' then
    [('\\', '\\'), ('\'', '\''), ('"', '"'), ('a', '\x07'), ('b', '\x08'), ('f', '\x0c'),
      ('n', '\n'), ('r', '\r'), ('t', '\t'), ('v', '\x0b')]
  else [('\\', '\\'), ('\'', '\'')]

/-- A text with escapes replaced; a backslash before any other character stands for itself. -/
def unescape (table : List (Char × Char)) : Text → Text
  | [] => []
  | '\\' :: c :: rest =>
      match table.lookup c with
      | some meant => meant :: unescape table rest
      | none => '\\' :: unescape table (c :: rest)
  | c :: rest => c :: unescape table rest

/-- A bare value up to its comment, which a blank must precede. -/
def beforeComment (afterBlank : Bool) : Text → Text
  | [] => []
  | c :: rest =>
      if c = '#' && afterBlank then [] else c :: beforeComment (Text.isBlank c) rest

/-- The value at the front of a text and what follows it. -/
def readValue (text : Text) : Option (Text × Text) :=
  match text with
  | '\'' :: rest =>
      (closeQuote '\'' rest).map fun (inner, left) => (unescape (escapes '\'') inner, left)
  | '"' :: rest =>
      (closeQuote '"' rest).map fun (inner, left) => (unescape (escapes '"') inner, left)
  | _ =>
      let (line, left) := text.span fun c => !isBreak c
      some (Text.trimEnd (beforeComment false line), left)

/-! ## Statements -/

/-- Reads what follows a name: a value after an equals sign, or nothing.  Where reading fails, the
text from there on is given instead. -/
def readTail (name : Option Text) (text : Text) : Except Text (Statement × Text) :=
  let (value, left) : Option (Option Text) × Text := match skipGap text with
    | '=' :: rest =>
        match readValue (skipGap rest) with
        | some (value, left) => (some (some value), left)
        | none => (none, skipGap rest)
    | rest => (some none, rest)
  match value, endLine? left with
  | some value, some next => .ok ((name.map (Statement.variable · value)).getD .nothing, next)
  | _, _ => .error left

/-- Reads one statement that is looked for from a line on: the statement and what follows it. -/
def readStatement (line : Nat) (text : Text) : Statement × Text :=
  match Text.trimStart text with
  | [] => (.nothing, [])
  | first =>
      let text := skipExport first
      let result : Except Text (Statement × Text) := match readName text with
        | none => .error text
        | some (name, left) => readTail name left
      match result with
      | .ok answer => answer
      | .error left => (.unreadable line, skipLine left)

/-- The statements of a text that begins on a line.  At most `fuel` of them are read. -/
def readStatements : Nat → Nat → Text → List Statement
  | 0, _, _ => []
  | fuel + 1, line, text =>
      match text with
      | [] => []
      | _ =>
          let (statement, left) := readStatement line text
          let passed := text.take (text.length - left.length)
          statement :: readStatements fuel (line + passed.count '\n') left

/-- The statements of a text. -/
def read (text : Text) : List Statement :=
  readStatements text.length 1 text

/-! ## Replacement -/

/-- A reference to a variable, read after its opening brace: the name, the default, and what follows
the closing brace. -/
def readReference (text : Text) : Option (Text × Text × Text) :=
  let (name, left) := text.span fun c => c ≠ '\x7d' && c ≠ ':'
  match left with
  | '\x7d' :: rest => some (name, [], rest)
  | ':' :: '-' :: more =>
      let (default, left) := more.span (· ≠ '\x7d')
      if left.isEmpty then none else some (name, default, left.drop 1)
  | _ => none

/-- A text with its references replaced by the values of names.  At most `fuel` characters and
references are read. -/
def expandReferences (valueOf : Text → Option Text) : Nat → Text → Text
  | 0, _ => []
  | fuel + 1, text =>
      match text with
      | [] => []
      | c :: rest =>
          match if c = '$' then (Text.after? ['\x7b'] rest).bind readReference else none with
          | some (name, default, left) =>
              (valueOf name).getD default ++ expandReferences valueOf fuel left
          | none => c :: expandReferences valueOf fuel rest

/-- The value of a name for references: by the variables of the file, where one without a value is
empty, or else by the process environment. -/
def referenceValue (environ : Table Text) (known : Table (Option Text)) (name : Text) :
    Option Text :=
  match Table.get? known name with
  | some value => some (value.getD [])
  | none => Table.get? environ name

/-- The variables of a file after one more statement. -/
def enter (environ : Table Text) (known : Table (Option Text)) :
    Statement → Table (Option Text)
  | .variable name value =>
      Table.set known name
        (value.map fun value =>
          expandReferences (referenceValue environ known) value.length value)
  | _ => known

/-- The variables of a file, in an environment; the value of a name that is given again is the last
one. -/
def valuesIn (environ : Table Text) (statements : List Statement) : Table (Option Text) :=
  statements.foldl (enter environ) []

/-- The process environment with the variables of a file that have a value. -/
def extend (environ : Table Text) (statements : List Statement) : Table Text :=
  Table.setAll environ
    ((valuesIn environ statements).filterMap fun (name, value) => value.map (name, ·))

end HttpScript.Dotenv
