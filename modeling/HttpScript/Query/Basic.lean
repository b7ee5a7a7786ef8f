import HttpScript.Json.Basic

/-!
# Queries

A query is a list of segments, each of which leads from a value to some of the values inside it.
A location is the way to one value: the keys and list positions to step through from the root.
-/

namespace HttpScript

/-- One part of a query. -/
inductive Segment
  /-- The entry of a key. -/
  | key (name : Text)
  /-- A position in a list, from its end when negative; or the entry of the key in digits. -/
  | index (position : Int)
  /-- Every child. -/
  | all
  /-- The items of a list between two bounds, each from its end when negative. -/
  | slice (start stop : Option Int)
  /-- The value itself and everything inside it. -/
  | descend
deriving DecidableEq, Repr

/-- A step from a value to a child. -/
inductive Step
  | key (name : Text)
  | index (position : Nat)
deriving DecidableEq, Repr

/-- The steps from the root to a value. -/
abbrev Location := List Step

namespace Json

/-- The child that a step leads to. -/
def child? : Json → Step → Option Json
  | .object fields, .key name => Table.get? fields name
  | .list items, .index position => items[position]?
  | _, _ => none

/-- The value at a location. -/
def at? (value : Json) : Location → Option Json
  | [] => some value
  | step :: rest => (value.child? step).bind fun child => child.at? rest

/-- Pairs every item with its position, counted from `start`. -/
def numbered (start : Nat) : List Json → List (Step × Json)
  | [] => []
  | item :: rest => (.index start, item) :: numbered (start + 1) rest

/-- The children of a value with the steps to them. -/
def children : Json → List (Step × Json)
  | .object fields => fields.map fun (name, value) => (.key name, value)
  | .list items => numbered 0 items
  | _ => []

end Json

end HttpScript
