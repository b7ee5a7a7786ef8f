import HttpScript.Json.Basic
import HttpScript.Number.Shortest

/-!
# Writing JSON

A value is written on one line, with a space after every comma and colon, or over several lines
with two spaces of indentation a level.  Every character outside printable ASCII is written by
its code units, so the written text is plain ASCII.
-/

namespace HttpScript.Json

/-- The escape of a code unit by four hexadecimal digits. -/
def unitEscape (unit : Nat) : Text :=
  '\\' :: 'u' :: Text.hexDigits 4 unit

/-- A character as it stands inside a quoted string. -/
def writeChar (c : Char) : Text :=
  if c == '"' then ['\\', '"']
  else if c == '\\' then ['\\', '\\']
  else if c == '\n' then ['\\', 'n']
  else if c == '\r' then ['\\', 'r']
  else if c == '\t' then ['\\', 't']
  else if c.toNat == 8 then ['\\', 'b']
  else if c.toNat == 12 then ['\\', 'f']
  else if 0x20 ≤ c.toNat && c.toNat < 0x7F then [c]
  else if c.toNat < 0x10000 then unitEscape c.toNat
  else
    let offset := c.toNat - 0x10000
    unitEscape (0xD800 + offset / 0x400) ++ unitEscape (0xDC00 + offset % 0x400)

/-- A string in quotes. -/
def writeString (text : Text) : Text :=
  '"' :: text.flatMap writeChar ++ ['"']

/-- A floating point number. -/
def writeFloat (x : Double) : Text :=
  x.write .plain "NaN" "Infinity"

/-- A value that is neither a list nor an object. -/
def writeScalar : Json → Text
  | .null => "null"
  | .bool true => "true"
  | .bool false => "false"
  | .int value => Text.ofInt value
  | .float value => writeFloat value
  | .str value => writeString value
  | .list _ => []
  | .object _ => []

mutual

/-- A value on one line. -/
def write : Json → Text
  | .list items => '[' :: writeItems items ++ [']']
  | .object fields => '\x7b' :: writeFields fields ++ ['\x7d']
  | scalar => writeScalar scalar

/-- Values with a comma and a space between neighbours. -/
def writeItems : List Json → Text
  | [] => []
  | [item] => write item
  | item :: next :: rest => write item ++ ", " ++ writeItems (next :: rest)

/-- Fields with a comma and a space between neighbours. -/
def writeFields : List (Text × Json) → Text
  | [] => []
  | [(name, value)] => writeString name ++ ": " ++ write value
  | (name, value) :: next :: rest =>
      writeString name ++ ": " ++ write value ++ ", " ++ writeFields (next :: rest)

end

/-- A new line at a level of indentation. -/
def newLine (level : Nat) : Text :=
  '\n' :: List.replicate (2 * level) ' '

mutual

/-- A value over several lines, itself at a level of indentation. -/
def writeIndented (level : Nat) : Json → Text
  | .list [] => "[]"
  | .list (item :: rest) =>
      '[' :: newLine (level + 1) ++ writeIndentedItems (level + 1) (item :: rest) ++
        newLine level ++ [']']
  | .object [] => "\x7b\x7d"
  | .object (field :: rest) =>
      '\x7b' :: newLine (level + 1) ++ writeIndentedFields (level + 1) (field :: rest) ++
        newLine level ++ ['\x7d']
  | scalar => writeScalar scalar

/-- Values on lines of their own. -/
def writeIndentedItems (level : Nat) : List Json → Text
  | [] => []
  | [item] => writeIndented level item
  | item :: next :: rest =>
      writeIndented level item ++ "," ++ newLine level ++ writeIndentedItems level (next :: rest)

/-- Fields on lines of their own. -/
def writeIndentedFields (level : Nat) : List (Text × Json) → Text
  | [] => []
  | [(name, value)] => writeString name ++ ": " ++ writeIndented level value
  | (name, value) :: next :: rest =>
      writeString name ++ ": " ++ writeIndented level value ++ "," ++ newLine level ++
        writeIndentedFields level (next :: rest)

end

/-- The text of a value inside other text: strings as they are, nothing for `null`. -/
def plainText : Json → Text
  | .null => []
  | .str value => value
  | .float value => value.write .plain "nan" "inf"
  | value => write value

end HttpScript.Json
