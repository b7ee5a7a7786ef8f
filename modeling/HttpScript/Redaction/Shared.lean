import HttpScript.Redaction

/-!
# Redaction by a list or an object

A placeholder that is a list or an object can be stepped into.  All the places it was put into hold
one and the same value, so replacing something inside it at one place changes it at all of them,
and makes it hold itself.  A `Sharing` keeps apart the two kinds of places: those of the document
and those inside the placeholder.
-/

namespace HttpScript.Redaction

/-- A document with a shared placeholder in it. -/
structure Sharing where
  /-- The document, with the placeholder as it was at first in each replaced place. -/
  document : Json
  /-- The replaced places of the document. -/
  replaced : List Location
  /-- The placeholder as it was at first. -/
  placeholder : Json
  /-- The places inside the placeholder that hold the placeholder itself. -/
  loops : List Location

/-- Where a way ends: in the document or inside the placeholder. -/
inductive Place
  | document (way : Location)
  | placeholder (way : Location)

/-- What is left of a way after one of the given locations, the empty one not counted. -/
def restAfter? (stops : List Location) (way : Location) : Option Location :=
  stops.findSome? fun stop =>
    if !stop.isEmpty && stop.isPrefixOf way then some (way.drop stop.length) else none

/-- Follows a way inside the placeholder, back to its root at every loop. -/
def followLoops (loops : List Location) : Nat → Location → Location
  | 0, way => way
  | fuel + 1, way =>
      match restAfter? loops way with
      | some [] => way
      | some rest => followLoops loops fuel rest
      | none => way

/-- The place that a way of the document leads to. -/
def Sharing.place (sharing : Sharing) (way : Location) : Place :=
  match restAfter? sharing.replaced way with
  | none => .document way
  | some [] => .document way
  | some rest => .placeholder (followLoops sharing.loops rest.length rest)

/-- Puts the placeholder at a location. -/
def Sharing.replaceAt (sharing : Sharing) (way : Location) : Except Fault Sharing :=
  match sharing.place way with
  | .document way => do
      let document ← Redaction.replaceAt sharing.placeholder way sharing.document
      return { sharing with document, replaced := way :: sharing.replaced }
  | .placeholder way =>
      match way, sharing.placeholder with
      | [.index _], .object _ => .ok { sharing with loops := way :: sharing.loops }
      | _, _ => do
          let _ ← Redaction.replaceAt .null way sharing.placeholder
          return { sharing with loops := way :: sharing.loops }

/-- Puts the placeholder at some locations, one after the other. -/
def Sharing.replaceAll : List Location → Sharing → Except Fault Sharing
  | [], sharing => .ok sharing
  | way :: rest, sharing => do replaceAll rest (← sharing.replaceAt way)

/-- Redacts by a placeholder that can be stepped into. -/
def Sharing.replaceSelected (sharing : Sharing) (segments : List Segment) :
    Except Fault Sharing :=
  sharing.replaceAll (Query.locations segments sharing.document)

/-- The redacted document; a placeholder inside itself has no end. -/
def Sharing.result (sharing : Sharing) : Except Fault Json :=
  if sharing.loops.isEmpty then .ok sharing.document else .error .endless

/-- Redacts what the paths of a list select, one path after the other. -/
def Sharing.redact : List Text → Sharing → Except Fault Sharing
  | [], sharing => .ok sharing
  | path :: rest, sharing => do
      let segments ← (Query.read path).mapError (.badPath path)
      redact rest (← sharing.replaceSelected segments)

/-- Redacts a value by any placeholder. -/
def redactBy (placeholder : Json) (paths : List Text) (value : Json) : Except Fault Json :=
  match placeholder with
  | .list _ | .object _ => do (← Sharing.redact paths ⟨value, [], placeholder, []⟩).result
  | _ => redact placeholder paths value

end HttpScript.Redaction
