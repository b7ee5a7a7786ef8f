import HttpScript.Json.Writer
import HttpScript.Yaml.Word

/-!
# Reading settings files

A settings file holds one value: a word, a list or a mapping.  In block style a list has a dash
before each item and a mapping has a colon after each key, items and keys standing in one column; a
list under a key may stand in the column of the key.  In flow style lists and mappings are written
in brackets, over any lines.  A key is a word on one line; a key that occurs again replaces the
value at its first place, and one that is no text is replaced by its written form.

A list or mapping in block style begins only where a line begins or after the dash of an item
(`fresh` in the functions below).  Tags, anchors, aliases, directives, explicit keys and block
scalars are refused.
-/

namespace HttpScript.Yaml

/-- The text of a key. -/
def keyText : Json → Text
  | .str text => text
  | value => value.write

/-- The place after a colon that follows a place on the same line, if there is one.  In block style
blank space must follow the colon. -/
def colonAfter? (inBrackets : Bool) (place : Place) : Option Place :=
  let (next, crossed) := place.skip
  match next.rest with
  | ':' :: rest =>
      if !crossed && (inBrackets || endsToken rest) then some (next.forward 1) else none
  | _ => none

/-- Whether a place is at the dash of an item. -/
def atDash (place : Place) : Bool :=
  match place.rest with
  | '-' :: rest => endsToken rest
  | _ => false

/-! ## Flow style -/

mutual

/-- Reads a value in brackets: the value, the place after it, and whether it can be a key, which is
so for a word on one line. -/
def readFlow : Nat → Place → Option (Json × Place × Bool)
  | 0, _ => none
  | fuel + 1, place =>
      if place.isOver then none
      else match place.rest with
        | '[' :: _ => do
            let (items, after) ← readFlowItems fuel (place.forward 1).skip.1
            return (.list items, after, false)
        | '\x7b' :: _ => do
            let (fields, after) ← readFlowFields fuel [] (place.forward 1).skip.1
            return (.object fields, after, false)
        | _ => do
            let word ← readWord true 0 place
            return (word.value, word.after, word.oneLine)

/-- Reads what follows a colon in brackets: nothing before a comma or a closing bracket. -/
def readFlowValue : Nat → Place → Option (Json × Place)
  | 0, _ => none
  | fuel + 1, place =>
      let next := place.skip.1
      match next.rest with
      | ',' :: _ | ']' :: _ | '\x7d' :: _ => some (.null, place)
      | _ => do
          let (value, after, _) ← readFlow fuel next
          return (value, after)

/-- Reads the items of a list in brackets up to the closing bracket.  An item may be a single key
with its value. -/
def readFlowItems : Nat → Place → Option (List Json × Place)
  | 0, _ => none
  | fuel + 1, place =>
      match place.rest with
      | ']' :: _ => some ([], place.forward 1)
      | _ => do
          let (value, after, isKey) ← readFlow fuel place
          let (item, after) ← match colonAfter? true after with
            | none => some (value, after)
            | some next =>
                if isKey then
                  (readFlowValue fuel next).map fun (inner, after) =>
                    (.object [(keyText value, inner)], after)
                else none
          let next := after.skip.1
          match next.rest with
          | ',' :: _ => do
              let (items, after) ← readFlowItems fuel (next.forward 1).skip.1
              return (item :: items, after)
          | ']' :: _ => some ([item], next.forward 1)
          | _ => none

/-- Reads the fields of a mapping in brackets up to the closing bracket, beyond those that were
read before.  A key without a colon has no value. -/
def readFlowFields : Nat → Table Json → Place → Option (Table Json × Place)
  | 0, _, _ => none
  | fuel + 1, fields, place =>
      match place.rest with
      | '\x7d' :: _ => some (fields, place.forward 1)
      | _ => do
          let (key, after, isKey) ← readFlow fuel place
          let (value, after) ← match colonAfter? true after with
            | some next => if isKey then readFlowValue fuel next else none
            | none => match key with
                | .list _ | .object _ => none
                | _ => some (.null, after)
          let fields := Table.set fields (keyText key) value
          let next := after.skip.1
          match next.rest with
          | ',' :: _ => readFlowFields fuel fields (next.forward 1).skip.1
          | '\x7d' :: _ => some (fields, next.forward 1)
          | _ => none

end

/-! ## Block style -/

/-- Reads a key with its colon, in something of an indentation: the text of the key and the place
after the colon. -/
def readKey (indent : Int) (place : Place) : Option (Text × Place) := do
  let word ← readWord false indent place
  let after ← colonAfter? false word.after
  if word.oneLine then return (keyText word.value, after) else none

mutual

/-- Reads a value that stands inside something of an indentation. -/
def readBlock : Nat → Int → Bool → Place → Option (Json × Place)
  | 0, _, _, _ => none
  | fuel + 1, indent, fresh, place =>
      if atDash place then
        if fresh then do
          let (items, after) ← readItems fuel place.column false place
          return (.list items, after)
        else none
      else match place.rest with
        | '[' :: _ | '\x7b' :: _ => do
            let (value, after, _) ← readFlow fuel place
            return (value, after)
        | _ =>
            match if fresh then readKey indent place else none with
            | some (key, next) => do
                let (fields, after) ← readFields fuel place.column [] key next
                return (.object fields, after)
            | none => do
                let word ← readWord false indent place
                return (word.value, word.after)

/-- Reads the items of a list whose dashes stand in a column, from a dash on.  A list under a key
may be followed by a further key in its column. -/
def readItems : Nat → Nat → Bool → Place → Option (List Json × Place)
  | 0, _, _, _ => none
  | fuel + 1, column, underKey, place => do
      let (next, crossed) := (place.forward 1).skip
      let (item, after) ←
        if next.isOver || (crossed && next.column ≤ column) then some (.null, place.forward 1)
        else readBlock fuel column true next
      let (next, crossed) := after.skip
      if next.isOver || next.column < column then return ([item], after)
      else if !crossed || next.column ≠ column then none
      else if atDash next then
        let (items, after) ← readItems fuel column underKey next
        return (item :: items, after)
      else if underKey then return ([item], after)
      else none

/-- Reads the fields of a mapping whose keys stand in a column, beyond those that were read before:
the value of a key from the place after its colon on, and the fields that follow. -/
def readFields : Nat → Nat → Table Json → Text → Place → Option (Table Json × Place)
  | 0, _, _, _, _ => none
  | fuel + 1, column, fields, key, place => do
      let (next, crossed) := place.skip
      let (value, after) ←
        if next.isOver then some (.null, place)
        else if !crossed then readBlock fuel column false next
        else if column < next.column then readBlock fuel column true next
        else if next.column = column && atDash next then
          (readItems fuel column true next).map fun (items, after) => (.list items, after)
        else some (.null, place)
      let fields := Table.set fields key value
      let (next, crossed) := after.skip
      if next.isOver || next.column < column then return (fields, after)
      else if !crossed || next.column ≠ column then none
      else
        let (key, next) ← readKey column next
        readFields fuel column fields key next

end

/-! ## Documents -/

/-- Whether a character may stand in a settings file. -/
def isPrintable (c : Char) : Bool :=
  c = '\t' || c = '\n' || c = '\r' || (0x20 ≤ c.toNat && c.toNat ≤ 0x7E) || c.toNat = 0x85 ||
    (0xA0 ≤ c.toNat && c.toNat ≤ 0xD7FF) || (0xE000 ≤ c.toNat && c.toNat ≤ 0xFFFD) ||
    0x10000 ≤ c.toNat

/-- Whether nothing but closing markers is left.  At most `fuel` of them are passed. -/
def onlyMarkers : Nat → Place → Bool
  | 0, _ => false
  | fuel + 1, place =>
      let next := place.skip.1
      next.rest.isEmpty || (next.isMarker '.' && onlyMarkers fuel (next.forward 3))

/-- The value from a place to the end of the text; a document without one is nothing. -/
def readDocument (place : Place) : Option Json := do
  let fuel := 2 * place.rest.length + 2
  let (next, crossed) := place.skip
  let (value, after) ←
    if next.isOver then some (.null, place)
    else readBlock fuel (-1) (crossed || place.column = 0) next
  if onlyMarkers fuel after then return value else none

/-- The value that a text holds. -/
def read (text : Text) : Option Json :=
  if !text.all isPrintable then none
  else
    let place := Place.start ((Text.after? [Char.ofNat 0xFEFF] text).getD text)
    let first := place.skip.1
    if first.isMarker '-' then readDocument (first.forward 3)
    else if first.isMarker '.' then none
    else readDocument place

end HttpScript.Yaml
