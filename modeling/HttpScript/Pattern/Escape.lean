import HttpScript.Pattern.Flags
import HttpScript.Text.CharacterNames

/-!
# Escapes in regular expressions

A backslash with the character after it stands for a control character, for a character by its code
or its name, for a class of characters, for a condition or for what a group has matched.
-/

namespace HttpScript.Pattern

/-- A digit of an octal number. -/
def isOctalDigit (c : Char) : Bool := '0' ≤ c && c ≤ '7'

/-- A decimal digit of a number in a pattern; only ASCII digits count. -/
def isPlainDigit (c : Char) : Bool := '0' ≤ c && c ≤ '9'

/-- A digit of a hexadecimal number. -/
def isHexDigit (c : Char) : Bool :=
  isPlainDigit c || ('a' ≤ c && c ≤ 'f') || ('A' ≤ c && c ≤ 'F')

/-- The value of digits in some base. -/
def valueIn (base : Nat) (digits : Text) : Nat :=
  digits.foldl (fun value c => base * value +
    (if isPlainDigit c then c.toNat - 48
      else if 'a' ≤ c then c.toNat - 87 else c.toNat - 55)) 0

/-! ## What a letter stands for -/

/-- The code of the control character of a letter after a backslash. -/
def controlCode? : Char → Option Nat
  | 'a' => some 7
  | 'b' => some 8
  | 'f' => some 12
  | 'n' => some 10
  | 'r' => some 13
  | 't' => some 9
  | 'v' => some 11
  | '\\' => some 92
  | _ => none

/-- The class of characters of a letter after a backslash. -/
def namedClass? : Char → Option SetMember
  | 'd' => some (.named false .digit)
  | 'D' => some (.named true .digit)
  | 's' => some (.named false .blank)
  | 'S' => some (.named true .blank)
  | 'w' => some (.named false .word)
  | 'W' => some (.named true .word)
  | _ => none

/-- The condition of a letter after a backslash. -/
def condition? (ascii : Bool) : Char → Option Anchor
  | 'A' => some .textStart
  | 'Z' => some .textEnd
  | 'b' => some (.wordEdge ascii false)
  | 'B' => some (.wordEdge ascii true)
  | _ => none

/-- How many hexadecimal digits follow a letter after a backslash. -/
def hexLength? : Char → Option Nat
  | 'x' => some 2
  | 'u' => some 4
  | 'U' => some 8
  | _ => none

/-! ## Code points -/

/-- The greatest number that a code point is taken for, whether it is one or not. -/
def codeLimit : Nat := 0x7FFFFFFF

/-- Reads a code point in hexadecimal digits. -/
def readHexCode (c : Char) (length : Nat) : Reading Nat := do
  let digits ← takeWhile isHexDigit length
  let escape := '\\' :: c :: digits
  let code := valueIn 16 digits
  if digits.length < length then failBack (.incompleteEscape escape) escape.length
  else if codeLimit < code then throw ⟨.codeTooLarge, none⟩
  else if 0x10FFFF < code then failBack (.badEscape escape) escape.length
  else return code

/-- Reads the name of a character in braces. -/
def readNamedCode : Reading Nat := do
  if !(← takeIf '\x7b') then failBack .missingBrace 0
  let name ← takeName "character name" '\x7d'
  match Text.characterNamed? name with
  | some code => return code
  | none => failBack (.unknownCharacterName name) (name.length + 4)

/-- The code of an octal escape, which is one byte at most. -/
def octalCode (digits : Text) : Reading Nat := do
  let escape := '\\' :: digits
  if valueIn 8 digits > 255 then failBack (.octalTooLarge escape) escape.length
  else return valueIn 8 digits

/-! ## Escapes in sets -/

/-- The member of a set that an escape stands for. -/
def readSetEscape (c : Char) : Reading SetMember := do
  match controlCode? c, namedClass? c, hexLength? c with
  | some code, _, _ => return .char code
  | _, some member, _ => return member
  | _, _, some length => return .char (← readHexCode c length)
  | none, none, none =>
      if c == 'N' then return .char (← readNamedCode)
      else if isOctalDigit c then
        return .char (← octalCode (c :: (← takeWhile isOctalDigit 2)))
      else if isPlainDigit c || c.isAlpha then failBack (.badEscape ['\\', c]) 2
      else return .char c.toNat

/-! ## Escapes in sequences -/

/-- The pattern of a single character. -/
def literal (flags : Flags) (code : Nat) : Pattern :=
  .set flags.alphabet false [.char code]

/-- Whether a group is closed. -/
def isClosed (number : Nat) : Reading Bool := do
  return (← get).closedGroups.any fun closed => closed.1 == number

/-- In a look-behind only the groups that were closed before it can be referred to. -/
def checkLookBehind (number : Nat) : Reading Unit := do
  match (← get).groupsBehind with
  | none => return ()
  | some count =>
      if !(← isClosed number) then failBack .openGroup 0
      if count < number then failBack .groupOfLookBehind 0

/-- Refers back to the group with a number. -/
def readReference (flags : Flags) (digits : Text) : Reading Pattern := do
  let number := valueIn 10 digits
  if (← get).groupCount < number then failBack (.unknownGroup number) digits.length
  if !(← isClosed number) then failBack .openGroup (digits.length + 1)
  checkLookBehind number
  return .reference flags.alphabet number

/-- Reads an escape of an octal code or a reference to a group. -/
def readNumberEscape (flags : Flags) (c : Char) : Reading Pattern := do
  if c == '0' then
    return literal flags (valueIn 8 (c :: (← takeWhile isOctalDigit 2)))
  else
    let second ← takeWhile isPlainDigit 1
    let mayBeOctal := isOctalDigit c && second.all isOctalDigit && !second.isEmpty
    let third ← if mayBeOctal then takeWhile isOctalDigit 1 else pure []
    if third.isEmpty then readReference flags (c :: second)
    else return literal flags (← octalCode (c :: second ++ third))

/-- The pattern that an escape stands for. -/
def readEscape (flags : Flags) (c : Char) : Reading Pattern := do
  match condition? flags.alphabet.ascii c, namedClass? c, controlCode? c, hexLength? c with
  | some condition, _, _, _ => return .anchor condition
  | _, some member, _, _ => return .set flags.alphabet false [member]
  | _, _, some code, _ => return literal flags code
  | _, _, _, some length => return literal flags (← readHexCode c length)
  | none, none, none, none =>
      if c == 'N' then return literal flags (← readNamedCode)
      else if isPlainDigit c then readNumberEscape flags c
      else if c.isAlpha then failBack (.badEscape ['\\', c]) 2
      else return literal flags c.toNat

end HttpScript.Pattern
