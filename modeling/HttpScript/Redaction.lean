import HttpScript.Query.Selection

/-!
# Redaction

Redacting a value replaces whatever a list of queries selects.  The queries are applied one after
the other, each to what the queries before it left.  A query that selects a value and something
inside it replaces the value first and then has nothing to step into: that is a fault.
-/

namespace HttpScript.Redaction

/-- Why a value cannot be redacted. -/
inductive Fault
  /-- A path is no query. -/
  | badPath (path : Text) (fault : Query.ReadFault)
  /-- The way leads into a value that has no such kind of child. -/
  | noWayIn
  /-- The way leads through a key that is not there. -/
  | noSuchKey
  /-- The way leads through a position outside a list or a text. -/
  | noSuchPosition
  /-- The placeholder was put inside itself. -/
  | endless
deriving DecidableEq, Repr

/-- What stands for a redacted value. -/
def mark : Text := "<ignored>"

/-- Replaces an item of a list by what a function makes of it. -/
def replaceItem (change : Json → Except Fault Json) : Nat → List Json → Except Fault (List Json)
  | _, [] => .error .noSuchPosition
  | 0, item :: rest => do return (← change item) :: rest
  | position + 1, item :: rest => do return item :: (← replaceItem change position rest)

/-- Replaces the value of a key by what a function makes of it. -/
def replaceField (change : Json → Except Fault Json) (name : Text) :
    List (Text × Json) → Except Fault (List (Text × Json))
  | [] => .error .noSuchKey
  | (key, value) :: rest =>
      if key = name then do return (key, ← change value) :: rest
      else do return (key, value) :: (← replaceField change name rest)

/-- Why nothing can be replaced behind a text: its characters can be reached, not replaced. -/
def insideText (length : Nat) : Location → Fault
  | .index position :: next :: rest =>
      if position < length then insideText 1 (next :: rest) else .noSuchPosition
  | _ => .noWayIn

/-- Puts a value in the place of the one at a location; the root itself is never replaced. -/
def replaceAt (placeholder : Json) : Location → Json → Except Fault Json
  | [], value => .ok value
  | [.key name], .object fields => .ok (.object (Table.set fields name placeholder))
  | .key name :: rest, .object fields => do
      return .object (← replaceField (replaceAt placeholder rest) name fields)
  | [.index position], .list items => do
      return .list (← replaceItem (fun _ => .ok placeholder) position items)
  | .index position :: rest, .list items => do
      return .list (← replaceItem (replaceAt placeholder rest) position items)
  | [.index _], .object _ => .error .noWayIn
  | .index _ :: _, .object _ => .error .noSuchKey
  | way, .str text => .error (insideText text.length way)
  | _, _ => .error .noWayIn

/-- Puts a value in the place of those at some locations, one after the other. -/
def replaceAll (placeholder : Json) : List Location → Json → Except Fault Json
  | [], value => .ok value
  | way :: rest, value => do replaceAll placeholder rest (← replaceAt placeholder way value)

/-- Replaces what a list of segments selects. -/
def replaceSelected (placeholder : Json) (segments : List Segment) (value : Json) :
    Except Fault Json :=
  replaceAll placeholder (Query.locations segments value) value

/-- Redacts what the paths of a list select, one path after the other. -/
def redact (placeholder : Json) : List Text → Json → Except Fault Json
  | [], value => .ok value
  | path :: rest, value => do
      let segments ← (Query.read path).mapError (.badPath path)
      redact placeholder rest (← replaceSelected placeholder segments value)

end HttpScript.Redaction
