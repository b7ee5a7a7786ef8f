import HttpScript.Json.Basic

/-!
# Equality of JSON values

A truth value equals the same truth value only.  Numbers are equal when their exact values are,
whole or not.  Lists are compared item by item, objects key by key whatever the order of the keys.
-/

namespace HttpScript.Json

/-- Equality of numbers by their exact values. -/
def numbersEqual : Json → Json → Bool
  | .int i, .int j => i == j
  | .int i, .float y => y.eqvInt i
  | .float x, .int j => x.eqvInt j
  | .float x, .float y => x.eqv y
  | _, _ => false

mutual

/-- Equality of values. -/
def eqv : Json → Json → Bool
  | .null, .null => true
  | .bool a, .bool b => a == b
  | .str a, .str b => a == b
  | .list items, .list others => itemsEqv items others
  | .object fields, .object others =>
      fieldsEqv fields others && others.all fun other => Table.has fields other.1
  | x, y => numbersEqual x y

/-- Equality of lists, item by item. -/
def itemsEqv : List Json → List Json → Bool
  | [], [] => true
  | item :: rest, other :: others => eqv item other && itemsEqv rest others
  | _, _ => false

/-- Whether every field occurs among the others with an equal value. -/
def fieldsEqv : List (Text × Json) → List (Text × Json) → Bool
  | [], _ => true
  | (name, value) :: rest, others =>
      (match Table.get? others name with
        | some other => eqv value other
        | none => false) && fieldsEqv rest others

end

end HttpScript.Json
