import HttpScript.Number.Double
import HttpScript.Table

/-!
# JSON values

Response bodies, expected values and whole outcomes are JSON.  Whole numbers are unbounded and kept
apart from floating point numbers, and an object keeps its entries in order.  That no key occurs
twice in an object is the predicate `Json.KeysDistinct`; reading a text guarantees it.
-/

namespace HttpScript

/-- A JSON value. -/
inductive Json
  | null
  | bool (value : Bool)
  | int (value : Int)
  | float (value : Double)
  | str (value : Text)
  | list (items : List Json)
  | object (fields : List (Text × Json))

namespace Json

instance : Inhabited Json := ⟨.null⟩

/-- The value of a key of an object. -/
def field? (name : Text) : Json → Option Json
  | .object fields => Table.get? fields name
  | _ => none

/-- Whether a value counts as given: `null`, `false`, zero, and whatever is empty do not. -/
def isGiven : Json → Bool
  | .null => false
  | .bool value => value
  | .int value => value != 0
  | .float (.finite _ significand _) => significand != 0
  | .float _ => true
  | .str value => !value.isEmpty
  | .list items => !items.isEmpty
  | .object fields => !fields.isEmpty

mutual

/-- No object inside a value has a key twice. -/
def KeysDistinct : Json → Prop
  | .list items => itemsKeysDistinct items
  | .object fields => (fields.map Prod.fst).Nodup ∧ fieldsKeysDistinct fields
  | _ => True

/-- No object inside one of the items has a key twice. -/
def itemsKeysDistinct : List Json → Prop
  | [] => True
  | item :: rest => KeysDistinct item ∧ itemsKeysDistinct rest

/-- No object inside the value of a field has a key twice. -/
def fieldsKeysDistinct : List (Text × Json) → Prop
  | [] => True
  | (_, value) :: rest => KeysDistinct value ∧ fieldsKeysDistinct rest

end

end Json

end HttpScript
