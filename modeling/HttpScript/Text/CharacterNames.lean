import HttpScript.Text.NameTable

/-!
# Names of characters

Every character has a name, and a regular expression may call a character by it.  Most names stand
in a table; syllables of Hangul are named by the sounds they are made of, and ideographs by their
code points.
-/

namespace HttpScript.Text

/-! ## Listed names -/

/-- The value of a digit up to a base of 36, the letters being capitals. -/
def capitalDigit? (base : Nat) (c : Char) : Option Nat :=
  let value :=
    if '0' ≤ c && c ≤ '9' then c.toNat - 48
    else if 'A' ≤ c && c ≤ 'Z' then c.toNat - 55 else base
  if value < base then some value else none

/-- The name that an entry stands for, after a name. -/
def entryName (previous : Text) : Text → Text
  | front :: back :: middle =>
      let shared := fun digit => (capitalDigit? 36 digit).getD 0
      previous.take (shared front) ++ middle ++ previous.drop (previous.length - shared back)
  | _ => []

/-- The code point of a name among entries, the first of which is that of a given code point; or
else the last of their names. -/
def findEntry (name : Text) (code : Nat) (previous : Text) : List Text → Nat ⊕ Text
  | [] => .inr previous
  | entry :: rest =>
      let this := entryName previous entry
      if this = name then .inl code else findEntry name (code + 1) this rest

/-- The code point of a name in the rows of a table, after a name. -/
def findRow (name previous : Text) : List (Nat × String) → Option Nat
  | [] => none
  | (first, entries) :: rest =>
      match findEntry name first previous (splitAll ',' entries) with
      | .inl code => some code
      | .inr last => findRow name last rest

/-- The code point of a listed name. -/
def findListed (name : Text) : Option Nat :=
  (nameTables.findSome? (findRow name [])).or
    ((nameAliases.find? fun entry => entry.2.toList = name).map Prod.fst)

/-! ## Names that are made up -/

/-- The code point that capital hexadecimal digits denote. -/
def codePoint? (digits : Text) : Option Nat :=
  digits.foldlM (fun code c => (capitalDigit? 16 c).map (16 * code + ·)) 0

/-- The runs of ideographs that are named by their code points, in four digits or five. -/
def ideographRanges : List (Nat × Nat) :=
  [(0x3400, 0x4DBF), (0x4E00, 0x9FFF), (0x20000, 0x2A6DF), (0x2A700, 0x2B738), (0x2B740, 0x2B81D),
    (0x2B820, 0x2CEA1), (0x2CEB0, 0x2EBE0), (0x30000, 0x3134A)]

/-- Other runs of characters that are named by their code points, with what stands before these. -/
def numberedRanges : List (String × Nat × Nat) :=
  [("CJK COMPATIBILITY IDEOGRAPH-", 0xF900, 0xFA6D),
    ("CJK COMPATIBILITY IDEOGRAPH-", 0xFA70, 0xFAD9),
    ("CJK COMPATIBILITY IDEOGRAPH-", 0x2F800, 0x2FA1D),
    ("KHITAN SMALL SCRIPT CHARACTER-", 0x18B00, 0x18CD5), ("NUSHU CHARACTER-", 0x1B170, 0x1B2FB)]

/-- The ideograph of the digits of a code point; zeros may stand before four digits. -/
def findIdeograph (digits : Text) : Option Nat :=
  if digits.length = 4 ∨ digits.length = 5 then
    (codePoint? digits).filter fun code =>
      ideographRanges.any fun range => range.1 ≤ code && code ≤ range.2
  else none

/-- The code point in the name of a character that is named by it. -/
def findNumbered (name : Text) : Option Nat :=
  numberedRanges.findSome? fun (start, first, last) => do
    let digits ← after? start name
    let code ← codePoint? digits
    if first ≤ code && code ≤ last && digits.length = (if code < 0x10000 then 4 else 5) then
      some code
    else none

/-- The sounds that a Hangul syllable may begin with. -/
def leadingSounds : List String :=
  ["G", "GG", "N", "D", "DD", "R", "M", "B", "BB", "S", "SS", "", "J", "JJ", "C", "K", "T", "P",
    "H"]

/-- The vowels of Hangul syllables. -/
def vowelSounds : List String :=
  ["A", "AE", "YA", "YAE", "EO", "E", "YEO", "YE", "O", "WA", "WAE", "OE", "YO", "U", "WEO", "WE",
    "WI", "YU", "EU", "YI", "I"]

/-- The sounds that a Hangul syllable may end with. -/
def trailingSounds : List String :=
  ["", "G", "GG", "GS", "N", "NJ", "NH", "D", "L", "LG", "LM", "LB", "LS", "LT", "LP", "LH", "M",
    "B", "BS", "S", "SS", "NG", "J", "C", "K", "T", "P", "H"]

/-- The place of the longest of some sounds that a text begins with, and the rest of the text. -/
def takeSound (sounds : List String) (text : Text) : Option (Nat × Text) :=
  let found := sounds.zipIdx.filterMap fun (sound, place) =>
    (after? sound text).map fun rest => (place, rest)
  found.foldl (fun best this =>
    if best.all fun other => this.2.length < other.2.length then some this else best) none

/-- The Hangul syllable that is made of the sounds in its name. -/
def findSyllable (sounds : Text) : Option Nat := do
  let (leading, afterLeading) ← takeSound leadingSounds sounds
  let (vowel, afterVowel) ← takeSound vowelSounds afterLeading
  let (trailing, rest) ← takeSound trailingSounds afterVowel
  if rest.isEmpty then some (0xAC00 + (leading * 21 + vowel) * 28 + trailing) else none

/-- The code point of the character with a name.  Small letters stand for capitals except in what
comes before the sounds of a syllable or the code point of an ideograph. -/
def characterNamed? (name : Text) : Option Nat :=
  match after? "HANGUL SYLLABLE " name, after? "CJK UNIFIED IDEOGRAPH-" name with
  | some sounds, _ => findSyllable sounds
  | none, some digits => findIdeograph digits
  | none, none =>
      let capitals := name.map Char.toUpper
      (findNumbered capitals).or (findListed capitals)

end HttpScript.Text
