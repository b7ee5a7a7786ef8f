import HttpScript.Query.Reader

/-!
# Selection

What a query selects is a list of locations with the values there.  Each segment leads from one value
to some of the values inside it, in the order in which they stand in the document, and the rest of the
query goes on from each of these in turn.
-/

namespace HttpScript

/-- A value with the way to it. -/
abbrev Node := Location × Json

namespace Json

mutual

/-- A value and everything inside it, each before what it holds. -/
def descendants (value : Json) : List Node :=
  match value with
  | .list items => ([], .list items) :: itemDescendants 0 items
  | .object fields => ([], .object fields) :: fieldDescendants fields
  | scalar => [([], scalar)]

/-- The items from a position on and everything inside them. -/
def itemDescendants (start : Nat) : List Json → List Node
  | [] => []
  | item :: rest =>
      (descendants item).map (fun (way, value) => (.index start :: way, value)) ++
        itemDescendants (start + 1) rest

/-- The values of fields and everything inside them. -/
def fieldDescendants : List (Text × Json) → List Node
  | [] => []
  | (name, value) :: rest =>
      (descendants value).map (fun (way, value) => (.key name :: way, value)) ++
        fieldDescendants rest

end

/-- The child of a step, as the only node or none. -/
def childNodes (value : Json) (step : Step) : List Node :=
  match value.child? step with
  | some child => [([step], child)]
  | none => []

end Json

namespace Query

/-- A bound of a slice as a position between the items of a list: counted from the end when
negative, and moved to the nearer end when it lies outside. -/
def clampBound (length : Nat) (bound : Int) : Nat :=
  if bound < 0 then (length + bound).toNat else min bound.toNat length

/-- The nodes that one segment leads to. -/
def step (segment : Segment) (value : Json) : List Node :=
  match segment, value with
  | .descend, value => value.descendants
  | .all, value => value.children.map fun (step, child) => ([step], child)
  | .slice start stop, .list items =>
      let first := (start.map (clampBound items.length)).getD 0
      let last := (stop.map (clampBound items.length)).getD items.length
      (Json.numbered first ((items.take last).drop first)).map fun (step, child) => ([step], child)
  | .slice _ _, _ => []
  | .index position, .list items =>
      let position := if position < 0 then items.length + position else position
      if position < 0 then [] else Json.childNodes (.list items) (.index position.toNat)
  | .index position, value => value.childNodes (.key (Text.ofInt position))
  | .key name, value => value.childNodes (.key name)

/-- The nodes that a list of segments leads to. -/
def select : List Segment → Json → List Node
  | [], value => [([], value)]
  | segment :: rest, value =>
      (step segment value).flatMap fun (way, inner) =>
        (select rest inner).map fun (further, found) => (way ++ further, found)

/-- The locations that a list of segments leads to. -/
def locations (segments : List Segment) (value : Json) : List Location :=
  (select segments value).map Prod.fst

/-- The values that a list of segments leads to. -/
def values (segments : List Segment) (value : Json) : List Json :=
  (select segments value).map Prod.snd

/-- Several values as one: nothing is `null`, one value is itself, more are a list. -/
def single : List Json → Json
  | [] => .null
  | [value] => value
  | values => .list values

end Query

end HttpScript
