import HttpScript.Json.Basic

/-!
# Merging objects

One object is laid over another: a key of the upper one replaces the value of the lower one, unless
both values are objects, which are merged in turn.  Keys keep the order of the lower object, new
ones follow.
-/

namespace HttpScript.Json

mutual

/-- The value that arises where `upper` is laid over what was there before. -/
def mergeOver (lower : Option Json) (upper : Json) : Json :=
  match upper with
  | .object fields =>
      match lower with
      | some (.object base) => .object (mergeFields base fields)
      | _ => .object fields
  | value => value

/-- The fields of an object over which further fields were laid. -/
def mergeFields (base : List (Text × Json)) : List (Text × Json) → List (Text × Json)
  | [] => base
  | (name, value) :: rest =>
      mergeFields (Table.set base name (mergeOver (Table.get? base name) value)) rest

end

end HttpScript.Json
