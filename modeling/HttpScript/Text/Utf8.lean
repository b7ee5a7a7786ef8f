import HttpScript.Text.Basic

/-!
# UTF-8

A text is encoded in bytes, and bytes are decoded whatever they are: the longest beginning of a
character that is no whole character is read as one replacement character, and so is every byte
that begins none.
-/

namespace HttpScript.Utf8

/-- The bytes of a character. -/
def encodeChar (c : Char) : List Nat :=
  let n := c.toNat
  if n < 0x80 then [n]
  else if n < 0x800 then [0xC0 + n / 0x40, 0x80 + n % 0x40]
  else if n < 0x10000 then [0xE0 + n / 0x1000, 0x80 + n / 0x40 % 0x40, 0x80 + n % 0x40]
  else
    [0xF0 + n / 0x40000, 0x80 + n / 0x1000 % 0x40, 0x80 + n / 0x40 % 0x40, 0x80 + n % 0x40]

/-- The bytes of a text. -/
def encode (text : Text) : List Nat :=
  text.flatMap encodeChar

/-- The beginning of a character: the number of bytes that must follow, the least and the greatest
value of the next one, and the bits read so far. -/
structure Begun where
  owed : Nat
  least : Nat
  greatest : Nat
  bits : Nat

/-- What a first byte begins, if it begins a character of several bytes. -/
def begun? (byte : Nat) : Option Begun :=
  if 0xC2 ≤ byte && byte ≤ 0xDF then some ⟨1, 0x80, 0xBF, byte - 0xC0⟩
  else if byte = 0xE0 then some ⟨2, 0xA0, 0xBF, 0⟩
  else if byte = 0xED then some ⟨2, 0x80, 0x9F, 0xD⟩
  else if 0xE1 ≤ byte && byte ≤ 0xEF then some ⟨2, 0x80, 0xBF, byte - 0xE0⟩
  else if byte = 0xF0 then some ⟨3, 0x90, 0xBF, 0⟩
  else if byte = 0xF4 then some ⟨3, 0x80, 0x8F, 4⟩
  else if 0xF1 ≤ byte && byte ≤ 0xF3 then some ⟨3, 0x80, 0xBF, byte - 0xF0⟩
  else none

/-- What stands for bytes that are no character. -/
def replacement : Char := Char.ofNat 0xFFFD

/-- A first byte: the text it stands for by itself, or what it begins. -/
def first (byte : Nat) : Text × Option Begun :=
  if byte < 0x80 then ([Char.ofNat byte], none)
  else match begun? byte with
    | some begun => ([], some begun)
    | none => ([replacement], none)

/-- A byte after what was begun: the text that is now complete, and what is begun now. -/
def next (begun : Begun) (byte : Nat) : Text × Option Begun :=
  if begun.least ≤ byte && byte ≤ begun.greatest then
    let bits := begun.bits * 0x40 + (byte - 0x80)
    if begun.owed ≤ 1 then ([Char.ofNat bits], none)
    else ([], some ⟨begun.owed - 1, 0x80, 0xBF, bits⟩)
  else
    let (text, state) := first byte
    (replacement :: text, state)

/-- Decodes bytes after what was begun. -/
def decodeFrom (begun : Option Begun) : List Nat → Text
  | [] => if begun.isSome then [replacement] else []
  | byte :: rest =>
      let (text, state) := match begun with
        | none => first byte
        | some begun => next begun byte
      text ++ decodeFrom state rest

/-- The text of bytes. -/
def decode (bytes : List Nat) : Text :=
  decodeFrom none bytes

end HttpScript.Utf8
