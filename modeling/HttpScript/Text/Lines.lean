import HttpScript.Text.Basic

/-!
# Lines

A script is cut into lines at `\r\n`, `\r` and `\n` only.  The text of a report is cut at every
character that ends a line or a page, and a break at its very end opens no further line.
-/

namespace HttpScript.Text

/-- Puts a character in front of the first line. -/
def consToFirst (c : Char) : List Text → List Text
  | [] => [[c]]
  | line :: lines => (c :: line) :: lines

/-- The lines of a text, cut at `\r\n`, `\r` and `\n`; a text without a break is one line. -/
def lines : Text → List Text
  | [] => [[]]
  | '\r' :: '\n' :: rest => [] :: lines rest
  | '\r' :: rest => [] :: lines rest
  | '\n' :: rest => [] :: lines rest
  | c :: rest => consToFirst c (lines rest)

/-- The same text with `\n` for every line break. -/
def withPlainBreaks : Text → Text
  | [] => []
  | '\r' :: '\n' :: rest => '\n' :: withPlainBreaks rest
  | '\r' :: rest => '\n' :: withPlainBreaks rest
  | c :: rest => c :: withPlainBreaks rest

/-- A character that ends a printed line. -/
def endsPrintedLine (c : Char) : Bool :=
  [0x0A, 0x0B, 0x0C, 0x0D, 0x1C, 0x1D, 0x1E, 0x85, 0x2028, 0x2029].contains c.toNat

/-- The printed lines of a text, cut at every character that ends a line or a page. -/
def printedLines : Text → List Text
  | [] => []
  | '\r' :: '\n' :: rest => [] :: printedLines rest
  | c :: rest =>
      if endsPrintedLine c then [] :: printedLines rest else consToFirst c (printedLines rest)

end HttpScript.Text
