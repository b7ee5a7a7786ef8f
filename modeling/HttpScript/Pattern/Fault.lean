import HttpScript.Pattern.Basic
import HttpScript.Text.Quoted

/-!
# Faults of regular expressions

Most of what can be wrong with a pattern is found while it is read, and has a place in it.  Some
faults are seen in the whole pattern only and have none.  A number that is too large is no fault of
the pattern: it ends the reading on the spot.
-/

namespace HttpScript.Pattern

/-- Why a text is no regular expression. -/
inductive ReadProblem
  | badEscapeAtEnd
  | badEscape (escape : Text)
  | incompleteEscape (escape : Text)
  | octalTooLarge (escape : Text)
  /-- A code point that is too large for a character's number. -/
  | codeTooLarge
  | missingBrace
  | unknownCharacterName (name : Text)
  | unknownGroup (number : Nat)
  | openGroup
  | groupOfLookBehind
  | unterminatedSet
  | badRange (first last : Text)
  | leastAboveMost
  | repetitionTooLarge
  | nothingToRepeat
  | multipleRepeat
  | unexpectedEnd
  | missingName (what : Text)
  | unterminatedName (terminator : Char)
  | badGroupName (name : Text)
  | badGroupNumber
  | unknownGroupName (name : Text)
  | unknownExtension (extension : Text)
  | unterminatedComment
  | unterminatedGroup
  | thirdBranch
  | nameTaken (name : Text) (number first : Nat)
  | flagsNotAtStart
  | flagEndExpected
  | unknownFlag
  | missingFlag
  | missingColon
  | localeFlag
  | flagConflict
  | globalFlagOn
  | globalFlagOff
  | alphabetFlagOff
  | flagTurnedOnAndOff
  | alphabetConflict
  | unbalancedGroup
  | repeatInTemplate (greed : Greed)
  | lookBehindTooWide
  | variableLookBehind

/-- The name of a repetition in a message. -/
def operatorName : Greed → Text
  | .most => "MAX_REPEAT"
  | .fewest => "MIN_REPEAT"
  | .possessive => "POSSESSIVE_REPEAT"

namespace ReadProblem

/-- The wording of a problem. -/
def message : ReadProblem → Text
  | .badEscapeAtEnd => "bad escape (end of pattern)"
  | .badEscape escape => "bad escape " ++ escape
  | .incompleteEscape escape => "incomplete escape " ++ escape
  | .octalTooLarge escape => "octal escape value " ++ escape ++ " outside of range 0-0o377"
  | .codeTooLarge => "the code point is too large"
  | .missingBrace => "missing \x7b"
  | .unknownCharacterName name => "undefined character name " ++ Text.quoted name
  | .unknownGroup number => "invalid group reference " ++ Text.ofNat number
  | .openGroup => "cannot refer to an open group"
  | .groupOfLookBehind => "cannot refer to group defined in the same lookbehind subpattern"
  | .unterminatedSet => "unterminated character set"
  | .badRange first last => "bad character range " ++ first ++ "-" ++ last
  | .leastAboveMost => "min repeat greater than max repeat"
  | .repetitionTooLarge => "the repetition number is too large"
  | .nothingToRepeat => "nothing to repeat"
  | .multipleRepeat => "multiple repeat"
  | .unexpectedEnd => "unexpected end of pattern"
  | .missingName what => "missing " ++ what
  | .unterminatedName terminator => "missing " ++ [terminator] ++ ", unterminated name"
  | .badGroupName name => "bad character in group name " ++ Text.quoted name
  | .badGroupNumber => "bad group number"
  | .unknownGroupName name => "unknown group name " ++ Text.quoted name
  | .unknownExtension extension => "unknown extension ?" ++ extension
  | .unterminatedComment => "missing ), unterminated comment"
  | .unterminatedGroup => "missing ), unterminated subpattern"
  | .thirdBranch => "conditional backref with more than two branches"
  | .nameTaken name number first =>
      "redefinition of group name " ++ Text.quoted name ++ " as group " ++ Text.ofNat number ++
        "; was group " ++ Text.ofNat first
  | .flagsNotAtStart => "global flags not at the start of the expression"
  | .flagEndExpected => "missing -, : or )"
  | .unknownFlag => "unknown flag"
  | .missingFlag => "missing flag"
  | .missingColon => "missing :"
  | .localeFlag => "bad inline flags: cannot use 'L' flag with a str pattern"
  | .flagConflict => "bad inline flags: flags 'a', 'u' and 'L' are incompatible"
  | .globalFlagOn => "bad inline flags: cannot turn on global flag"
  | .globalFlagOff => "bad inline flags: cannot turn off global flag"
  | .alphabetFlagOff => "bad inline flags: cannot turn off flags 'a', 'u' and 'L'"
  | .flagTurnedOnAndOff => "bad inline flags: flag turned on and off"
  | .alphabetConflict => "ASCII and UNICODE flags are incompatible"
  | .unbalancedGroup => "unbalanced parenthesis"
  | .repeatInTemplate greed => "internal: unsupported template operator " ++ operatorName greed
  | .lookBehindTooWide => "looks too much behind"
  | .variableLookBehind => "look-behind requires fixed-width pattern"

/-- Whether a problem is a number that is too large. -/
def isOverflow : ReadProblem → Bool
  | .codeTooLarge => true
  | .repetitionTooLarge => true
  | _ => false

end ReadProblem

/-- A problem and its place in the pattern, if it has one. -/
structure ReadFault where
  problem : ReadProblem
  position : Option Nat

/-- The cause and the place of a fault. -/
def ReadFault.message (fault : ReadFault) : Text :=
  match fault.position with
  | some position => fault.problem.message ++ " at position " ++ Text.ofNat position
  | none => fault.problem.message

/-- What is said of a pattern with a fault.  Flags for the whole pattern that contradict one another
are named without the pattern. -/
def ReadFault.report (pattern : Text) (fault : ReadFault) : Text :=
  match fault.problem with
  | .alphabetConflict => fault.message
  | _ => "invalid regular expression " ++ pattern ++ ": " ++ fault.message

end HttpScript.Pattern
