import HttpScript.Text.Basic

/-!
# Places in a settings file

Indentation says what belongs to what, so a place in the text is what is left to read together with
the column that was reached.  Between tokens stand spaces, line breaks and comments, which begin
with `#`; a tab stands only inside quotes and comments.
-/

namespace HttpScript.Yaml

/-- A place in a text. -/
structure Place where
  /-- The text from here on. -/
  rest : Text
  /-- How many characters stand before the place on its line. -/
  column : Nat
deriving DecidableEq, Repr

/-- A character that ends a line. -/
def isBreak (c : Char) : Bool :=
  [0x0A, 0x0D, 0x85, 0x2028, 0x2029].contains c.toNat

/-- Whether a text is at its end or goes on with a space, a tab or a line break. -/
def endsToken : Text → Bool
  | [] => true
  | c :: _ => c = ' ' || c = '\t' || isBreak c

/-- What a line break stands for: most are the same, the separators of lines and of paragraphs keep
their identity. -/
def breakChar (c : Char) : Char :=
  if c.toNat = 0x2028 || c.toNat = 0x2029 then c else '\n'

namespace Place

/-- The beginning of a text. -/
def start (text : Text) : Place :=
  { rest := text, column := 0 }

/-- The place some characters further on the same line. -/
def forward (place : Place) (count : Nat) : Place :=
  { rest := place.rest.drop count, column := place.column + count }

/-- What stands from a column on, after spaces, line breaks and comments, and whether a line break
is among these.  Inside a comment everything up to the line break is passed over. -/
def skipFrom (column : Nat) (inComment crossed : Bool) : Text → Place × Bool
  | [] => ({ rest := [], column }, crossed)
  | c :: rest =>
      if isBreak c then skipFrom 0 false true rest
      else if inComment || c = ' ' then skipFrom (column + 1) inComment crossed rest
      else if c = '#' then skipFrom (column + 1) true crossed rest
      else ({ rest := c :: rest, column }, crossed)

/-- The next place with something to read, and whether it is on a later line. -/
def skip (place : Place) : Place × Bool :=
  skipFrom place.column false false place.rest

/-- Whether three equal characters stand alone at the beginning of a line. -/
def isMarker (mark : Char) (place : Place) : Bool :=
  place.column = 0 &&
    match place.rest with
    | a :: b :: c :: rest => a = mark && b = mark && c = mark && endsToken rest
    | _ => false

/-- Whether nothing of the document is left: the text ends or a marker begins or ends a document. -/
def isOver (place : Place) : Bool :=
  place.rest.isEmpty || place.isMarker '-' || place.isMarker '.'

end Place

end HttpScript.Yaml
