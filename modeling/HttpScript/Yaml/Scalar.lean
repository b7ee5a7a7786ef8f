import HttpScript.Json.Basic

/-!
# The value of a bare word

A word without quotes is nothing, a truth value or a number if it is spelled like one, and text
otherwise.  A whole number may be binary, octal or hexadecimal or be cut into sexagesimal places;
underscores between digits mean nothing.
-/

namespace HttpScript.Yaml

/-! ## Spellings -/

/-- The spellings of nothing. -/
def nullWords : List Text :=
  ["~", "null", "Null", "NULL"]

/-- The spellings of truth. -/
def trueWords : List Text :=
  ["yes", "Yes", "YES", "true", "True", "TRUE", "on", "On", "ON"]

/-- The spellings of falsehood. -/
def falseWords : List Text :=
  ["no", "No", "NO", "false", "False", "FALSE", "off", "Off", "OFF"]

/-- The spellings of infinity after a sign. -/
def infinityWords : List Text :=
  [".inf", ".Inf", ".INF"]

/-- The spellings of what is no number. -/
def nanWords : List Text :=
  [".nan", ".NaN", ".NAN"]

/-! ## Digits -/

/-- The value of a digit below sixteen, in either case. -/
def digit? (c : Char) : Option Nat :=
  if '0' ≤ c && c ≤ '9' then some (c.toNat - '0'.toNat)
  else if 'a' ≤ c && c ≤ 'f' then some (c.toNat - 'a'.toNat + 10)
  else if 'A' ≤ c && c ≤ 'F' then some (c.toNat - 'A'.toNat + 10)
  else none

/-- A digit of a base. -/
def isDigitOf (base : Nat) (c : Char) : Bool :=
  (digit? c).any (· < base)

/-- A digit of a base or an underscore. -/
def isSpaced (base : Nat) (c : Char) : Bool :=
  c = '_' || isDigitOf base c

/-- The number that digits of a base denote, underscores left out. -/
def numberOf (base : Nat) (digits : Text) : Nat :=
  (digits.filter (· ≠ '_')).foldl (fun value c => base * value + (digit? c).getD 0) 0

/-- The sign in front of a number, and the number. -/
def splitSign : Text → Bool × Text
  | '-' :: rest => (true, rest)
  | '+' :: rest => (false, rest)
  | word => (false, word)

/-- Whether a text is a decimal digit and then digits and underscores. -/
def isDecimal : Text → Bool
  | [] => false
  | c :: rest => isDigitOf 10 c && rest.all (isSpaced 10)

/-- Whether a text is a decimal number without a leading zero. -/
def isPlainDecimal (word : Text) : Bool :=
  isDecimal word && word.head? ≠ some '0'

/-- A sexagesimal place: one digit, or two of which the first is below six. -/
def isPlace : Text → Bool
  | [c] => isDigitOf 10 c
  | [b, c] => isDigitOf 6 b && isDigitOf 10 c
  | _ => false

/-- The parts of a text between colons. -/
def colonParts (word : Text) : List Text :=
  Text.splitAll ':' word

/-- The number that sexagesimal places denote, the most significant one first. -/
def sexagesimal (places : List Text) : Nat :=
  places.foldl (fun value place => 60 * value + numberOf 10 place) 0

/-! ## Numbers -/

/-- The magnitude of a whole number. -/
def readMagnitude (word : Text) : Option Nat :=
  match word with
  | ['0'] => some 0
  | '0' :: 'b' :: digits =>
      if !digits.isEmpty && digits.all (isSpaced 2) then some (numberOf 2 digits) else none
  | '0' :: 'x' :: digits =>
      if !digits.isEmpty && digits.all (isSpaced 16) then some (numberOf 16 digits) else none
  | '0' :: digits =>
      if digits.all (isSpaced 8) then some (numberOf 8 digits) else none
  | word =>
      match colonParts word with
      | [] => none
      | [digits] => if isPlainDecimal digits then some (numberOf 10 digits) else none
      | first :: places =>
          if isPlainDecimal first && places.all isPlace then some (sexagesimal (first :: places))
          else none

/-- A whole number. -/
def readInteger (word : Text) : Option Int :=
  let (negative, digits) := splitSign word
  (readMagnitude digits).map fun magnitude => if negative then -(magnitude : Int) else magnitude

/-- The power of ten at the end of a number: `e`, a sign and digits, or nothing. -/
def readExponent : Text → Option Int
  | [] => some 0
  | e :: sign :: digits =>
      if (e = 'e' || e = 'E') && (sign = '-' || sign = '+') && !digits.isEmpty &&
          digits.all (isDigitOf 10) then
        some (if sign = '-' then -(numberOf 10 digits : Int) else numberOf 10 digits)
      else none
  | _ => none

/-- The number `whole.fraction` in sexagesimal places before the point, with a power of ten. -/
def decimal (negative : Bool) (places : List Text) (fraction : Text) (exponent : Int) : Double :=
  let digits := fraction.filter (· ≠ '_')
  Double.ofDecimal negative (sexagesimal places * Nat.pow 10 digits.length + numberOf 10 digits)
    (exponent - digits.length)

/-- A number with a point, read at the point. -/
def readPointed (signed negative : Bool) (whole tail : Text) : Option Double :=
  let (fraction, power) := tail.span (isSpaced 10)
  match colonParts whole with
  | [[]] =>
      if !signed && (fraction.head?.any (isDigitOf 10)) then
        (readExponent power).map (decimal false [] fraction)
      else none
  | [digits] =>
      if isDecimal digits then (readExponent power).map (decimal negative [digits] fraction)
      else none
  | first :: places =>
      if isDecimal first && places.all isPlace && power.isEmpty then
        some (decimal negative (first :: places) fraction 0)
      else none
  | [] => none

/-- A floating point number. -/
def readFloat (word : Text) : Option Double :=
  let (negative, digits) := splitSign word
  if infinityWords.contains digits then some (.infinity negative)
  else if nanWords.contains word then some .nan
  else match Text.splitAt? '.' digits with
    | none => none
    | some (whole, tail) => readPointed (digits.length < word.length) negative whole tail

/-! ## Words -/

/-- The value of a word without quotes.  The two words that stand for merging and for a default
have no value of their own. -/
def scalarValue (word : Text) : Option Json :=
  if word.isEmpty || nullWords.contains word then some .null
  else if trueWords.contains word then some (.bool true)
  else if falseWords.contains word then some (.bool false)
  else if word = ['<', '<'] || word = ['='] then none
  else match readFloat word with
    | some value => some (.float value)
    | none =>
        match readInteger word with
        | some value => some (.int value)
        | none => some (.str word)

end HttpScript.Yaml
