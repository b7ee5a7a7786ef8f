import HttpScript.Text.Basic

/-!
# Blank characters

Lines, names and values are trimmed of blank characters at both ends, and arguments are separated
by them.  The blank characters are those that separate words in any script, the separators of
lines, pages and records among them; the zero-width space is not one.
-/

namespace HttpScript.Text

/-- Whether the code point of a character lies in one of the ranges. -/
def inRanges (ranges : List (Nat × Nat)) (c : Char) : Bool :=
  ranges.any fun range => range.1 ≤ c.toNat && c.toNat ≤ range.2

/-- The first and last code point of every run of blank characters. -/
def blankRanges : List (Nat × Nat) :=
  [(0x09, 0x0D), (0x1C, 0x20), (0x85, 0x85), (0xA0, 0xA0), (0x1680, 0x1680), (0x2000, 0x200A),
    (0x2028, 0x2029), (0x202F, 0x202F), (0x205F, 0x205F), (0x3000, 0x3000)]

/-- A blank character. -/
def isBlank (c : Char) : Bool :=
  inRanges blankRanges c

/-- A text without the blank characters at its beginning. -/
def trimStart (text : Text) : Text :=
  text.dropWhile isBlank

/-- A text without the blank characters at its end. -/
def trimEnd (text : Text) : Text :=
  (text.reverse.dropWhile isBlank).reverse

/-- A text without the blank characters at its ends. -/
def trim (text : Text) : Text :=
  trimEnd (trimStart text)

/-- The first word of a text and what follows it, from the blank character on. -/
def splitWord (text : Text) : Text × Text :=
  text.span fun c => !isBlank c

/-- The words of a text whose open word is given in reverse. -/
def wordsAfter (current : Text) : Text → List Text
  | [] => if current.isEmpty then [] else [current.reverse]
  | c :: rest =>
      if isBlank c then
        if current.isEmpty then wordsAfter [] rest else current.reverse :: wordsAfter [] rest
      else wordsAfter (c :: current) rest

/-- The words of a text: its longest runs of characters that are not blank. -/
def words (text : Text) : List Text :=
  wordsAfter [] text

end HttpScript.Text
