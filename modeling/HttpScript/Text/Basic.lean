/-!
# Text

A text is a list of characters.  Scripts, header values, placeholders and reports are all texts;
everything that reads one goes through it from the front.
-/

namespace HttpScript

/-- Text, character by character. -/
abbrev Text := List Char

instance : Coe String Text := ⟨String.toList⟩

namespace Text

/-- The text after a given beginning, if the text begins so. -/
def after? : Text → Text → Option Text
  | [], text => some text
  | _ :: _, [] => none
  | c :: start, d :: text => if c = d then after? start text else none

/-- Whether a text begins with another. -/
def startsWith (start text : Text) : Bool :=
  (after? start text).isSome

/-- Whether a text occurs inside another. -/
def occursIn (part : Text) : Text → Bool
  | [] => part.isEmpty
  | c :: rest => startsWith part (c :: rest) || occursIn part rest

/-- What stands before the first occurrence of a character and what stands after it. -/
def splitAt? (mark : Char) : Text → Option (Text × Text)
  | [] => none
  | c :: rest =>
      if c = mark then some ([], rest)
      else (splitAt? mark rest).map fun (before, after) => (c :: before, after)

theorem splitAt?_append {mark : Char} {before : Text} (hbefore : mark ∉ before) (after : Text) :
    splitAt? mark (before ++ mark :: after) = some (before, after) := by
  induction before with
  | nil => simp [splitAt?]
  | cons c rest ih =>
      rw [List.mem_cons, not_or] at hbefore
      rw [List.cons_append, splitAt?, if_neg (Ne.symm hbefore.1), ih hbefore.2]
      rfl

theorem splitAt?_eq_none {mark : Char} {text : Text} (hmark : mark ∉ text) :
    splitAt? mark text = none := by
  induction text with
  | nil => rfl
  | cons c rest ih =>
      rw [List.mem_cons, not_or] at hmark
      rw [splitAt?, if_neg (Ne.symm hmark.1), ih hmark.2]
      rfl

/-- The parts of a text between the occurrences of a character, empty parts included. -/
def splitAll (mark : Char) : Text → List Text
  | [] => [[]]
  | c :: rest =>
      if c = mark then [] :: splitAll mark rest
      else match splitAll mark rest with
        | [] => [[c]]
        | part :: parts => (c :: part) :: parts

/-- Texts one after the other with a separator between neighbours. -/
def join (separator : Text) (parts : List Text) : Text :=
  separator.intercalate parts

/-- The order of texts by code points. -/
def precedes : Text → Text → Bool
  | [], _ => true
  | _ :: _, [] => false
  | c :: rest, d :: other => if c = d then precedes rest other else c < d

end Text

end HttpScript
