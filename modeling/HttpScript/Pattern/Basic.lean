import HttpScript.Text.Word
import HttpScript.Text.Digit
import HttpScript.Text.LetterCase

/-!
# Regular expressions

A pattern is searched for in a text.  Matching goes through the ways in which a pattern can match
from a place, the preferred one first.  Two ways that end in the same place with the same groups
have the same future, so only the first of them is kept.

Where case is ignored, characters are compared by their small letters; a few small letters that
have their capital in common count as one letter besides.
-/

namespace HttpScript

/-- How characters are told apart: with regard to case or without, and in classes of characters of
any script or of ASCII only. -/
structure Alphabet where
  ignoreCase : Bool
  ascii : Bool
deriving DecidableEq, Repr

/-- A class of characters with a short name of its own. -/
inductive CharClass
  | digit
  | blank
  | word
deriving DecidableEq, Repr

/-- A member of a set of characters.  Characters are given by their code points, which may also be
those of no character. -/
inductive SetMember
  | char (code : Nat)
  | range (first last : Nat)
  | named (negated : Bool) (name : CharClass)
deriving DecidableEq, Repr

/-- A condition on a place in the text. -/
inductive Anchor
  | textStart
  | textEnd
  /-- The beginning of the text, or of a line when lines are told apart. -/
  | lineStart (everyLine : Bool)
  /-- The end of the text or the place before a final line break, or the end of any line. -/
  | lineEnd (everyLine : Bool)
  | wordEdge (ascii negated : Bool)
deriving DecidableEq, Repr

/-- Which of the possible numbers of repetitions is preferred. -/
inductive Greed
  | most
  | fewest
  /-- As many as possible, and no other number. -/
  | possessive
deriving DecidableEq, Repr

/-- A regular expression. -/
inductive Pattern
  | empty
  | set (alphabet : Alphabet) (negated : Bool) (members : List SetMember)
  | any (lineBreaks : Bool)
  | anchor (condition : Anchor)
  | seq (first second : Pattern)
  | choice (first second : Pattern)
  | repeated (least : Nat) (most : Option Nat) (greed : Greed) (body : Pattern)
  | group (number : Nat) (body : Pattern)
  | reference (alphabet : Alphabet) (number : Nat)
  /-- One of two patterns, the first one if a group has matched. -/
  | conditional (number : Nat) (matched unmatched : Pattern)
  | ahead (negated : Bool) (body : Pattern)
  /-- A condition on the text before the place, with the least and the greatest length that the
  body can match. -/
  | behind (negated : Bool) (least : Nat) (most : Option Nat) (body : Pattern)
  | atomic (body : Pattern)
deriving DecidableEq

/-! ## Letters -/

namespace Alphabet

/-- The one small letter of a character. -/
def smallLetter (alphabet : Alphabet) (c : Char) : Char :=
  if alphabet.ascii then c.toLower
  else if c == 'İ' then 'i'
  else (Text.CaseRange.image? Text.smallLetters c).getD c

/-- Small letters that count as one letter. -/
def kindred : List (List Nat) :=
  [
    [0x69, 0x131], [0x73, 0x17F], [0xB5, 0x3BC], [0x345, 0x3B9, 0x1FBE], [0x390, 0x1FD3],
    [0x3B0, 0x1FE3], [0x3B2, 0x3D0], [0x3B5, 0x3F5], [0x3B8, 0x3D1], [0x3BA, 0x3F0], [0x3C0, 0x3D6],
    [0x3C1, 0x3F1], [0x3C2, 0x3C3], [0x3C6, 0x3D5], [0x432, 0x1C80], [0x434, 0x1C81],
    [0x43E, 0x1C82], [0x441, 0x1C83], [0x442, 0x1C84, 0x1C85], [0x44A, 0x1C86], [0x463, 0x1C87],
    [0x1C88, 0xA64B], [0x1E61, 0x1E9B], [0xFB05, 0xFB06]
  ]

/-- The characters with a given small letter, in any script. -/
def withSmallLetter (c : Char) : List Char :=
  c :: (if c == 'i' then ['İ'] else []) ++ Text.CaseRange.origins Text.smallLetters c

/-- The characters that are not told apart from a character. -/
def equals (alphabet : Alphabet) (c : Char) : List Char :=
  if !alphabet.ignoreCase then [c]
  else if alphabet.ascii then [c.toLower, c.toUpper]
  else
    let small := alphabet.smallLetter c
    let letters := (kindred.find? fun group => group.contains small.toNat).map fun group =>
      group.map Char.ofNat
    (letters.getD [small]).flatMap withSmallLetter

/-- Whether a character has another small form or another capital form. -/
def isCased (alphabet : Alphabet) (c : Char) : Bool :=
  if alphabet.ascii then c.isAlpha
  else alphabet.smallLetter c != c || (Text.capitalForm c).head? != some c

end Alphabet

/-! ## Sets of characters -/

/-- Whether a character belongs to a named class. -/
def CharClass.holds (ascii : Bool) (c : Char) : CharClass → Bool
  | .digit => if ascii then c.isDigit else Text.isDigit c
  | .blank => Text.isBlank c && (!ascii || c == ' ' || (9 ≤ c.toNat && c.toNat ≤ 13))
  | .word => Text.isWord c && (!ascii || c.toNat < 128)

/-- Whether a member of a set describes a character, the member being the only one or not.  Case is
not ignored in full beyond the first 65536 characters: among several members a capital letter from
there is found by no letter, and a range that goes on there also holds those letters whose capital
it holds. -/
def SetMember.holds (alphabet : Alphabet) (alone : Bool) (c : Char) : SetMember → Bool
  | .char code =>
      if alphabet.ignoreCase && !alone && 0xFFFF < code then (alphabet.smallLetter c).toNat == code
      else (alphabet.equals c).any fun d => d.toNat == code
  | .range first last =>
      let further :=
        if alphabet.ignoreCase && 0xFFFF < last then
          (Text.capitalForm (alphabet.smallLetter c)).take 1
        else []
      (alphabet.equals c ++ further).any fun d => first ≤ d.toNat && d.toNat ≤ last
  | .named negated name => name.holds alphabet.ascii c != negated

/-- Whether it matters to a member of a set that case is ignored. -/
def SetMember.isCased (alphabet : Alphabet) : SetMember → Bool
  | .char code => alphabet.isCased (Char.ofNat code)
  | .range first last =>
      0xFFFF < last || (List.range (last + 1 - first)).any fun step =>
        alphabet.isCased (Char.ofNat (first + step))
  | .named _ _ => false

namespace Pattern

/-- Whether a set holds a character. -/
def setHolds (alphabet : Alphabet) (members : List SetMember) (c : Char) : Bool :=
  members.any (SetMember.holds alphabet (members.length == 1) c)

/-! ## Matching -/

/-- A place in a text: what is before it, nearest first, what is after it, and what the groups
matched so far. -/
structure Place where
  before : Text
  after : Text
  groups : List (Nat × Text)
deriving DecidableEq

/-- Whether a condition holds at a place. -/
def Place.meets (place : Place) : Anchor → Bool
  | .textStart => place.before.isEmpty
  | .textEnd => place.after.isEmpty
  | .lineStart everyLine =>
      place.before.isEmpty || (everyLine && place.before.head? == some '\n')
  | .lineEnd everyLine =>
      place.after.isEmpty || place.after == ['\n'] ||
        (everyLine && place.after.head? == some '\n')
  | .wordEdge ascii negated =>
      let left := place.before.head?.any fun c => CharClass.word.holds ascii c
      let right := place.after.head?.any fun c => CharClass.word.holds ascii c
      -- an empty text has neither edges nor places that are none
      !(place.before.isEmpty && place.after.isEmpty) && (left != right) != negated

/-- The place after the next character, if that character is as wanted. -/
def Place.advance (place : Place) (wanted : Char → Bool) : List Place :=
  match place.after with
  | c :: rest =>
      if wanted c then [{ place with before := c :: place.before, after := rest }] else []
  | [] => []

/-- The place after a text that must come next. -/
def Place.advanceBy (alphabet : Alphabet) : Text → Place → List Place
  | [], place => [place]
  | c :: rest, place =>
      (place.advance fun d =>
          if alphabet.ignoreCase then alphabet.smallLetter c == alphabet.smallLetter d
          else c == d).flatMap
        (advanceBy alphabet rest)

/-- The places of a list without repetitions, each at its first occurrence. -/
def distinct (places : List Place) : List Place :=
  places.foldl (fun kept place => if kept.contains place then kept else kept ++ [place]) []

/-- The text between two places of one text, the second one further on. -/
def textBetween (start stop : Place) : Text :=
  start.after.take (start.after.length - stop.after.length)

/-- The places that a number of steps from some places lead to. -/
def repeatExactly (step : Place → List Place) : Nat → List Place → List Place
  | 0, places => places
  | count + 1, places =>
      if places.isEmpty then [] else repeatExactly step count (distinct (places.flatMap step))

/-- The places that any number of steps lead to, given the most that are left and the length of what
was behind the place of the last step.  A step may fail to move on once, and is the last one then. -/
def repeatFreely (step : Place → List Place) (lazily : Bool) :
    Nat → Option Nat → Option Nat → Place → List Place
  | 0, _, _, place => [place]
  | fuel + 1, most, last, place =>
      if most = some 0 ∨ last = some place.after.length then [place]
      else
        let further := (step place).flatMap
          (repeatFreely step lazily fuel (most.map (· - 1)) (some place.after.length))
        distinct (if lazily then place :: further else further ++ [place])

/-- The places that some repetitions of a step lead to. -/
def repeatStep (step : Place → List Place) (lazily : Bool) (least : Nat) (most : Option Nat)
    (place : Place) : List Place :=
  distinct ((repeatExactly step least [place]).flatMap fun start =>
    repeatFreely step lazily (start.after.length + 2) (most.map (· - least)) none start)

/-- The places where a match of a pattern from a place can end, the preferred one first. -/
def run : Pattern → Place → List Place
  | .empty, place => [place]
  | .set alphabet negated members, place =>
      place.advance fun c => setHolds alphabet members c != negated
  | .any lineBreaks, place => place.advance fun c => lineBreaks || c != '\n'
  | .anchor condition, place => if place.meets condition then [place] else []
  | .seq first second, place => distinct ((run first place).flatMap (run second))
  | .choice first second, place => distinct (run first place ++ run second place)
  | .repeated least most greed body, place =>
      if greed = .possessive then
        -- every single repetition is settled before the next one
        (repeatStep (fun start => (run body start).take 1) false least most place).take 1
      else repeatStep (run body) (greed = .fewest) least most place
  | .group number body, place =>
      (run body place).map fun stop =>
        { stop with
          groups := (number, textBetween place stop) ::
            stop.groups.filter fun group => group.1 != number }
  | .reference alphabet number, place =>
      match place.groups.lookup number with
      | some text => place.advanceBy alphabet text
      | none => []
  | .conditional number matched unmatched, place =>
      if (place.groups.lookup number).isSome then run matched place else run unmatched place
  | .ahead negated body, place =>
      match run body place with
      | [] => if negated then [place] else []
      | stop :: _ => if negated then [] else [{ place with groups := stop.groups }]
  | .behind negated least _ body, place =>
      if least ≤ place.before.length then
        let start : Place :=
          { place with
            before := place.before.drop least
            after := (place.before.take least).reverse ++ place.after }
        match (run body start).filter (fun stop => stop.after.length == place.after.length) with
        | [] => if negated then [place] else []
        | stop :: _ => if negated then [] else [{ place with groups := stop.groups }]
      else if negated then [place] else []
  | .atomic body, place => (run body place).take 1

/-- Whether a pattern matches somewhere in the rest of a text. -/
def searchFrom (pattern : Pattern) (before : Text) : Text → Bool
  | [] => !(run pattern ⟨before, [], []⟩).isEmpty
  | c :: rest =>
      !(run pattern ⟨before, c :: rest, []⟩).isEmpty || searchFrom pattern (c :: before) rest

/-- Whether a pattern matches somewhere in a text. -/
def search (pattern : Pattern) (text : Text) : Bool :=
  searchFrom pattern [] text

end Pattern

end HttpScript
