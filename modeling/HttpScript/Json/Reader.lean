import HttpScript.Json.Basic

/-!
# Reading JSON

A text is one value with white space around it.  Where reading stops, the rest of the text says at
which character; a fault is a cause and that place.  A key that occurs again in an object replaces
the value at its first place.

Beyond the format `NaN`, `Infinity` and `-Infinity` are numbers.  The escape of a half of a surrogate
pair that stands alone is no fault: a string of code points keeps such a half.  A text is made of
characters and cannot hold it, so U+FFFD stands in its place here (`joinSurrogates`).
-/

namespace HttpScript.Json

/-- Why a text is no JSON value. -/
inductive ReadProblem
  | expectedValue
  | expectedPropertyName
  | expectedColon
  | expectedComma
  | unterminatedString
  | controlCharacter
  | badEscape
  | badUnicodeEscape
  | extraData
  | byteOrderMark
deriving DecidableEq, Repr

/-- The wording of a problem. -/
def ReadProblem.message : ReadProblem → Text
  | .expectedValue => "Expecting value"
  | .expectedPropertyName => "Expecting property name enclosed in double quotes"
  | .expectedColon => "Expecting ':' delimiter"
  | .expectedComma => "Expecting ',' delimiter"
  | .unterminatedString => "Unterminated string starting at"
  | .controlCharacter => "Invalid control character at"
  | .badEscape => "Invalid \\escape"
  | .badUnicodeEscape => "Invalid \\uXXXX escape"
  | .extraData => "Extra data"
  | .byteOrderMark => "Unexpected UTF-8 BOM (decode using utf-8-sig)"

/-- A problem and the text from the place of the problem on. -/
structure Stop where
  problem : ReadProblem
  rest : Text
deriving DecidableEq, Repr

/-! ## Strings -/

/-- White space between the parts of a value. -/
def isSpace (c : Char) : Bool :=
  c == ' ' || c == '\t' || c == '\n' || c == '\r'

/-- A text without the white space at its beginning. -/
def skipSpace (text : Text) : Text :=
  text.dropWhile isSpace

/-- The value of a hexadecimal digit. -/
def hexDigit? (c : Char) : Option Nat :=
  if '0' ≤ c && c ≤ '9' then some (c.toNat - '0'.toNat)
  else if 'a' ≤ c && c ≤ 'f' then some (c.toNat - 'a'.toNat + 10)
  else if 'A' ≤ c && c ≤ 'F' then some (c.toNat - 'A'.toNat + 10)
  else none

/-- The value of four hexadecimal digits. -/
def hexUnit? (a b c d : Char) : Option Nat := do
  return (((← hexDigit? a) * 16 + (← hexDigit? b)) * 16 + (← hexDigit? c)) * 16 + (← hexDigit? d)

/-- The first half of a surrogate pair. -/
def isHighSurrogate (unit : Nat) : Bool :=
  0xD800 ≤ unit && unit < 0xDC00

/-- The second half of a surrogate pair. -/
def isLowSurrogate (unit : Nat) : Bool :=
  0xDC00 ≤ unit && unit < 0xE000

/-- What stands for a half of a surrogate pair, which no text can hold. -/
def replacement : Char := Char.ofNat 0xFFFD

/-- The character of a surrogate pair. -/
def pairChar (high low : Nat) : Char :=
  Char.ofNat (0x10000 + (high - 0xD800) * 0x400 + (low - 0xDC00))

/-- The text of code points and surrogates: a pair is one character, and a half that stands alone is
replaced. -/
def joinSurrogates : List Nat → Text
  | [] => []
  | [unit] =>
      [if isHighSurrogate unit || isLowSurrogate unit then replacement else Char.ofNat unit]
  | unit :: next :: rest =>
      if isHighSurrogate unit then
        if isLowSurrogate next then pairChar unit next :: joinSurrogates rest
        else replacement :: joinSurrogates (next :: rest)
      else
        (if isLowSurrogate unit then replacement else Char.ofNat unit) ::
          joinSurrogates (next :: rest)

/-- The character that a letter after a backslash stands for. -/
def escapedChar? : Char → Option Char
  | '"' => some '"'
  | '\\' => some '\\'
  | '/' => some '/'
  | 'b' => some (Char.ofNat 8)
  | 'f' => some (Char.ofNat 12)
  | 'n' => some '\n'
  | 'r' => some '\r'
  | 't' => some '\t'
  | _ => none

/-- Puts a code point or surrogate in front of those that were read. -/
def consUnit (unit : Nat) : Except Stop (List Nat × Text) → Except Stop (List Nat × Text)
  | .ok (units, rest) => .ok (unit :: units, rest)
  | .error stop => .error stop

/-- Reads the code points and surrogates of a string up to its closing quote.  The text from its
opening quote on is `opening`. -/
def readUnits (opening : Text) : Text → Except Stop (List Nat × Text)
  | [] => .error ⟨.unterminatedString, opening⟩
  | '"' :: rest => .ok ([], rest)
  | ['\\'] => .error ⟨.unterminatedString, opening⟩
  | '\\' :: 'u' :: a :: b :: c :: d :: e :: rest =>
      match hexUnit? a b c d with
      | none => .error ⟨.badUnicodeEscape, 'u' :: a :: b :: c :: d :: e :: rest⟩
      | some unit => consUnit unit (readUnits opening (e :: rest))
  | '\\' :: 'u' :: rest => .error ⟨.badUnicodeEscape, 'u' :: rest⟩
  | '\\' :: c :: rest =>
      match escapedChar? c with
      | none => .error ⟨.badEscape, '\\' :: c :: rest⟩
      | some d => consUnit d.toNat (readUnits opening rest)
  | c :: rest =>
      if c.toNat < 0x20 then .error ⟨.controlCharacter, c :: rest⟩
      else consUnit c.toNat (readUnits opening rest)

/-- Reads a string whose opening quote, with all after it, is `opening`. -/
def readString (opening text : Text) : Except Stop (Text × Text) :=
  (readUnits opening text).map fun (units, rest) => (joinSurrogates units, rest)

/-! ## Numbers and names -/

/-- A decimal digit of a number; only ASCII digits count. -/
def isNumberDigit (c : Char) : Bool :=
  '0' ≤ c && c ≤ '9'

/-- The whole part of a number: a zero alone, or digits that begin with another. -/
def splitWhole : Text → Option (Text × Text)
  | [] => none
  | '0' :: rest => some (['0'], rest)
  | c :: rest => if isNumberDigit c then some ((c :: rest).span isNumberDigit) else none

/-- The digits after a decimal point, if one follows with a digit after it. -/
def splitFraction : Text → Text × Text
  | '.' :: rest =>
      let (digits, after) := rest.span isNumberDigit
      if digits.isEmpty then ([], '.' :: rest) else (digits, after)
  | text => ([], text)

/-- The exponent of a number, if one follows with a digit in it. -/
def splitExponent : Text → Option Int × Text
  | c :: rest =>
      if c == 'e' || c == 'E' then
        let (negative, unsigned) := match rest with
          | '-' :: unsigned => (true, unsigned)
          | '+' :: unsigned => (false, unsigned)
          | _ => (false, rest)
        let (digits, after) := unsigned.span isNumberDigit
        if digits.isEmpty then (none, c :: rest)
        else
          let value : Int := Text.digitsValue digits
          (some (if negative then -value else value), after)
      else (none, c :: rest)
  | [] => (none, [])

/-- Reads a number without its sign. -/
def readUnsigned (negative : Bool) (text : Text) : Option (Json × Text) := do
  let (whole, rest) ← splitWhole text
  let (fraction, rest) := splitFraction rest
  let (exponent, rest) := splitExponent rest
  if fraction.isEmpty && exponent.isNone then
    let value : Int := Text.digitsValue whole
    return (.int (if negative then -value else value), rest)
  else
    let value := Double.ofDecimal negative (Text.digitsValue (whole ++ fraction))
      (exponent.getD 0 - fraction.length)
    return (.float value, rest)

/-- Reads a number. -/
def readNumber : Text → Option (Json × Text)
  | '-' :: rest => readUnsigned true rest
  | text => readUnsigned false text

/-- The values that are written as a name. -/
def namedValues : List (Text × Json) :=
  [("null", .null), ("true", .bool true), ("false", .bool false), ("NaN", .float .nan),
    ("Infinity", .float (.infinity false)), ("-Infinity", .float (.infinity true))]

/-- Reads a value that is written as a name. -/
def readNamed (text : Text) : Option (Json × Text) :=
  namedValues.findSome? fun (name, value) => (Text.after? name text).map fun rest => (value, rest)

/-- Reads a name or a number. -/
def readScalar (text : Text) : Except Stop (Json × Text) :=
  match readNamed text <|> readNumber text with
  | some result => .ok result
  | none => .error ⟨.expectedValue, text⟩

/-! ## Lists and objects -/

mutual

/-- Reads a value from the beginning of a text. -/
def readValue : Nat → Text → Except Stop (Json × Text)
  | 0, text => .error ⟨.expectedValue, text⟩
  | fuel + 1, text =>
      match text with
      | '"' :: rest => do
          let (value, rest) ← readString text rest
          return (.str value, rest)
      | '[' :: rest =>
          match skipSpace rest with
          | ']' :: rest => .ok (.list [], rest)
          | rest => do
              let (items, rest) ← readItems fuel rest
              return (.list items, rest)
      | '\x7b' :: rest =>
          match skipSpace rest with
          | '\x7d' :: rest => .ok (.object [], rest)
          | rest => do
              let (fields, rest) ← readFields fuel rest
              return (.object (Table.ofEntries fields), rest)
      | _ => readScalar text

/-- Reads the items of a list up to its closing bracket; there is at least one. -/
def readItems : Nat → Text → Except Stop (List Json × Text)
  | 0, text => .error ⟨.expectedValue, text⟩
  | fuel + 1, text => do
      let (item, rest) ← readValue fuel text
      match skipSpace rest with
      | ']' :: rest => return ([item], rest)
      | ',' :: rest =>
          let (items, rest) ← readItems fuel (skipSpace rest)
          return (item :: items, rest)
      | rest => .error ⟨.expectedComma, rest⟩

/-- Reads the fields of an object up to its closing brace; there is at least one. -/
def readFields : Nat → Text → Except Stop (List (Text × Json) × Text)
  | 0, text => .error ⟨.expectedValue, text⟩
  | fuel + 1, text =>
      match text with
      | '"' :: rest => do
          let (name, rest) ← readString text rest
          match skipSpace rest with
          | ':' :: rest =>
              let (value, rest) ← readValue fuel (skipSpace rest)
              match skipSpace rest with
              | '\x7d' :: rest => return ([(name, value)], rest)
              | ',' :: rest =>
                  let (fields, rest) ← readFields fuel (skipSpace rest)
                  return ((name, value) :: fields, rest)
              | rest => .error ⟨.expectedComma, rest⟩
          | rest => .error ⟨.expectedColon, rest⟩
      | _ => .error ⟨.expectedPropertyName, text⟩

end

/-- Reads a text that holds one value and nothing else. -/
def readDocument (text : Text) : Except Stop Json :=
  if text.head? = some (Char.ofNat 0xFEFF) then .error ⟨.byteOrderMark, text⟩
  else do
    let (value, rest) ← readValue (2 * text.length + 2) (skipSpace text)
    match skipSpace rest with
    | [] => return value
    | rest => .error ⟨.extraData, rest⟩

/-! ## Faults -/

/-- Why and at which character, counted from zero, a text is no JSON value. -/
structure ReadFault where
  problem : ReadProblem
  position : Nat
deriving DecidableEq, Repr

/-- The JSON value that a text holds. -/
def read (text : Text) : Except ReadFault Json :=
  match readDocument text with
  | .ok value => .ok value
  | .error stop => .error ⟨stop.problem, text.length - stop.rest.length⟩

namespace ReadFault

/-- The line of a text on which the fault lies. -/
def line (fault : ReadFault) (text : Text) : Nat :=
  (text.take fault.position).count '\n' + 1

/-- The place of the fault in its line. -/
def column (fault : ReadFault) (text : Text) : Nat :=
  ((text.take fault.position).reverse.takeWhile (· != '\n')).length + 1

/-- The cause and the place of the fault. -/
def message (fault : ReadFault) (text : Text) : Text :=
  fault.problem.message ++ ": line " ++ Text.ofNat (fault.line text) ++ " column " ++
    Text.ofNat (fault.column text) ++ " (char " ++ Text.ofNat fault.position ++ ")"

end ReadFault

end HttpScript.Json
