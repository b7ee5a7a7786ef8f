import HttpScript.Pattern.Scan
import HttpScript.Text.Identifier

/-!
# Flags of regular expressions

A group may begin with letters that switch flags on, and after a minus sign others that switch flags
off: for the whole pattern if the group holds nothing else, for the rest of the group otherwise.
-/

namespace HttpScript.Pattern

/-- Flags that change how a part of a pattern is read and matches. -/
structure Flags where
  alphabet : Alphabet
  everyLine : Bool
  lineBreaks : Bool
  verbose : Bool

/-- The flags of a pattern that sets none. -/
def Flags.none : Flags := ⟨⟨false, false⟩, false, false, false⟩

/-- Flags with further letters switched on and others switched off. -/
def Flags.with (flags : Flags) (on off : Text) : Flags :=
  let value := fun letter old => (old || on.contains letter) && !off.contains letter
  { alphabet :=
      { ignoreCase := value 'i' flags.alphabet.ignoreCase
        -- one alphabet replaces the other
        ascii := on.contains 'a' || (flags.alphabet.ascii && !on.contains 'u') }
    everyLine := value 'm' flags.everyLine
    lineBreaks := value 's' flags.lineBreaks
    verbose := value 'x' flags.verbose }

/-- The letters of flags. -/
def flagLetters : Text := "iLmsxatu"

/-- The letters of the flags for an alphabet; they exclude one another and are never switched off. -/
def alphabetLetters : Text := "aLu"

/-- Whether a token is the letter of a flag. -/
def isFlag (token : Text) : Bool :=
  flagLetters.any fun letter => token = [letter]

/-- Fails at a token that should have been a flag, or what the problem says. -/
def failAtFlag {α : Type} (problem : ReadProblem) (token : Text) : Reading α :=
  failBack (if token.all Text.isLetter then .unknownFlag else problem) token.length

/-- What letters of flags are for. -/
inductive FlagGroup
  | whole (on : Text)
  | part (on off : Text)

/-- Reads the letters of flags that are switched off, from a given one on. -/
def readFlagsOff (on : Text) : Nat → Text → Text → Reading FlagGroup
  | 0, _, _ => failBack .missingColon 0
  | fuel + 1, letter, off => do
      if letter.any alphabetLetters.contains then failBack .alphabetFlagOff 0
      let off := off ++ letter
      let some next ← take | failBack .missingColon 0
      if next = [':'] then
        if off.contains 't' then failBack .globalFlagOff 1
        if on.any off.contains then failBack .flagTurnedOnAndOff 1
        return .part on off
      else if isFlag next then readFlagsOff on fuel next off
      else failAtFlag .missingColon next

/-- Reads what follows the minus sign. -/
def readMinus (on : Text) : Reading FlagGroup := do
  let some first ← take | failBack .missingFlag 0
  if isFlag first then readFlagsOff on (← get).length first []
  else failAtFlag .missingFlag first

/-- Reads the letters of flags that are switched on, from a given one on. -/
def readFlagsOn : Nat → Text → Text → Reading FlagGroup
  | 0, _, _ => failBack .flagEndExpected 0
  | fuel + 1, letter, on => do
      if letter = ['L'] then failBack .localeFlag 0
      let on := on ++ letter
      if on.contains 'a' && on.contains 'u' then failBack .flagConflict 0
      let some next ← take | failBack .flagEndExpected 0
      if next = [')'] then return .whole on
      else if next = [':'] || next = ['-'] then
        if on.contains 't' then failBack .globalFlagOn 1
        if next = [':'] then return .part on [] else readMinus on
      else if isFlag next then readFlagsOn fuel next on
      else failAtFlag .flagEndExpected next

/-- Reads a group of flags from its first token on. -/
def readFlags (first : Text) : Reading FlagGroup := do
  if first = ['-'] then readMinus [] else readFlagsOn (← get).length first []

end HttpScript.Pattern
