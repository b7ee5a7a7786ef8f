import HttpScript.Text.Digit

/-!
# Numerals

A whole number that is typed by a person or stands in a settings file may have blanks around it, a
sign of either kind, and single underscores between its digits.
-/

namespace HttpScript.Text

/-- A blank character that may stand around a numeral: the separators of records are not such. -/
def isPadding (c : Char) : Bool :=
  isBlank c && !(0x1C ≤ c.toNat && c.toNat ≤ 0x1F)

/-- A text without the padding at its ends. -/
def trimPadding (text : Text) : Text :=
  ((text.dropWhile isPadding).reverse.dropWhile isPadding).reverse

/-- The number that digits with underscores between them denote. -/
def groupsValue? (text : Text) : Option Nat :=
  let groups := splitAll '_' text
  if groups.all fun group => !group.isEmpty && group.all isDigit then
    some (digitsValue groups.flatten)
  else none

/-- The whole number that a numeral denotes. -/
def numeral? (text : Text) : Option Int :=
  match trimPadding text with
  | '-' :: digits => (groupsValue? digits).map fun n => -(n : Int)
  | '+' :: digits => (groupsValue? digits).map fun n => (n : Int)
  | digits => (groupsValue? digits).map fun n => (n : Int)

end HttpScript.Text
