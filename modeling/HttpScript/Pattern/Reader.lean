import HttpScript.Pattern.Escape
import HttpScript.Text.Numeral

/-!
# Reading regular expressions

A pattern is read as alternatives of sequences, and what an opening parenthesis begins is told by
what stands behind it (`Opening`).  Some faults are looked for only when the whole pattern is read:
flags that contradict one another, a closing parenthesis too many, a condition on a group that there
is not, and at last what no pattern can be searched with (`Pattern.problem?`), above all a
look-behind whose matches differ in length.
-/

namespace HttpScript.Pattern

/-! ## Sets and repetitions -/

/-- The member of a set that a token stands for. -/
def readMember : Text → Reading SetMember
  | ['\\', c] => readSetEscape c
  | c :: _ => return .char c.toNat
  | [] => failBack .unterminatedSet 0

/-- Reads the members of a set that began at a place. -/
def readMembers (start : Nat) : Nat → List SetMember → Reading (List SetMember)
  | 0, _ => failAt .unterminatedSet start
  | fuel + 1, members => do
      let some this ← take | failAt .unterminatedSet start
      -- a bracket that comes first is a member
      if this = [']'] && !members.isEmpty then return members
      let first ← readMember this
      if ← takeIf '-' then
        let some that ← take | failAt .unterminatedSet start
        if that = [']'] then return members ++ [first, .char '-'.toNat]
        let last ← readMember that
        match first, last with
        | .char low, .char high =>
            if high < low then failBack (.badRange this that) (this.length + 1 + that.length)
            else readMembers start fuel (members ++ [.range low high])
        | _, _ => failBack (.badRange this that) (this.length + 1 + that.length)
      else readMembers start fuel (members ++ [first])

/-- Reads a set that began at a place, after the opening bracket. -/
def readSet (alphabet : Alphabet) (start : Nat) : Reading Pattern := do
  let negated ← takeIf '^'
  let members ← readMembers start ((← get).tokens.length + 1) []
  return .set alphabet negated members.eraseDups

/-- The least number that no bound of a repetition may reach. -/
def repetitionLimit : Nat := 4294967295

/-- Reads the bounds of a repetition in braces, after the opening one.  What is no bounds is left
as it is. -/
def readBounds : Reading (Option (Nat × Option Nat)) := do
  let saved ← get
  let start ← here
  if (← peek) = some ['\x7d'] then return none
  let least ← takeWhile isPlainDigit saved.length
  let most ← if ← takeIf ',' then takeWhile isPlainDigit saved.length else pure least
  if ← takeIf '\x7d' then
    let lower := valueIn 10 least
    let upper := if most.isEmpty then none else some (valueIn 10 most)
    if repetitionLimit ≤ lower || upper.any (repetitionLimit ≤ ·) then
      throw ⟨.repetitionTooLarge, none⟩
    if upper.any (· < lower) then failAt .leastAboveMost start
    return some (lower, upper)
  modify fun _ => saved
  return none

/-- Reads the bounds of the repetition that a token stands for; none if it stands for itself. -/
def readQuantifier : Text → Reading (Option (Nat × Option Nat))
  | ['*'] => return some (0, none)
  | ['+'] => return some (1, none)
  | ['?'] => return some (0, some 1)
  | ['\x7b'] => readBounds
  | _ => return none

/-- Reads which number of repetitions is preferred. -/
def readGreed : Reading Greed := do
  if ← takeIf '?' then return .fewest
  else
    if ← takeIf '+' then return .possessive else return .most

/-- Whether something may be repeated. -/
inductive ItemKind
  | plain
  | condition
  | repeated
deriving DecidableEq

/-- The items of a sequence read so far, the last one first.  A group that does nothing but hold its
body together is one item of several parts. -/
abbrev Items := List (ItemKind × List Pattern)

/-- The parts of a sequence. -/
def Items.parts (items : Items) : List Pattern :=
  items.reverse.flatMap Prod.snd

/-- A sequence of parts. -/
def sequence (parts : List Pattern) : Pattern :=
  parts.foldl .seq .empty

/-- Repeats the last item of a sequence by a quantifier that began at a place. -/
def repeatLast (start least : Nat) (most : Option Nat) : Items → Reading Items
  | [] => failAt .nothingToRepeat start
  | (kind, parts) :: rest => do
      if kind = .condition then failAt .nothingToRepeat start
      if kind = .repeated then failAt .multipleRepeat start
      return (.repeated, [.repeated least most (← readGreed) (sequence parts)]) :: rest

/-! ## Alternatives -/

/-- Whether a pattern has no other patterns in it. -/
def isLeaf : Pattern → Bool
  | .set _ _ _ => true
  | .any _ => true
  | .anchor _ => true
  | .reference _ _ => true
  | _ => false

/-- The leaves with which several sequences begin alike, and what follows them in each. -/
def splitCommon : List Pattern → List (List Pattern) → List Pattern × List (List Pattern)
  | [], others => ([], [] :: others)
  | part :: rest, others =>
      if part.isLeaf && others.all fun parts => parts.head? = some part then
        let (common, remaining) := splitCommon rest (others.map List.tail)
        (part :: common, remaining)
      else ([], (part :: rest) :: others)

/-- The members of a set that is the only part of a sequence. -/
def onlySet? (alphabet : Alphabet) : List Pattern → Option (List SetMember)
  | [.set own false members] => if own = alphabet then some members else none
  | _ => none

/-- The parts of a pattern of several sequences.  What all of them begin with is taken out, and if a
set of characters is left of each, these are one set. -/
def alternatives (alphabet : Alphabet) : List (List Pattern) → List Pattern
  | [] => []
  | [only] => only
  | first :: others =>
      let (common, remaining) := splitCommon first others
      match remaining.mapM (onlySet? alphabet) with
      | some members => common ++ [.set alphabet false members.flatten.eraseDups]
      | none =>
          let all := remaining.map sequence
          common ++ [all.dropLast.foldr .choice (all.getLast?.getD .empty)]

/-! ## Lengths of matches -/

/-- The greater of two bounds, none being the greatest. -/
def maxBound : Option Nat → Option Nat → Option Nat
  | some a, some b => some (max a b)
  | _, _ => none

/-- The least and the greatest length of a match of either of two patterns. -/
def eitherWidth (first second : Nat × Option Nat) : Nat × Option Nat :=
  (min first.1 second.1, maxBound first.2 second.2)

/-- The least and the greatest length of a match, given those of the closed groups. -/
def width (groups : List (Nat × Nat × Option Nat)) : Pattern → Nat × Option Nat
  | .empty => (0, some 0)
  | .set _ _ _ => (1, some 1)
  | .any _ => (1, some 1)
  | .anchor _ => (0, some 0)
  | .seq first second =>
      let (low, high) := width groups first
      let (low', high') := width groups second
      (low + low', do return (← high) + (← high'))
  | .choice first second => eitherWidth (width groups first) (width groups second)
  | .repeated least most _ body =>
      let (low, high) := width groups body
      let never := high = some 0 ∨ most = some 0
      (low * least, if never then some 0 else do return (← high) * (← most))
  | .group _ body => width groups body
  | .reference _ number => (groups.lookup number).getD (0, none)
  | .conditional _ matched unmatched =>
      eitherWidth (width groups matched) (width groups unmatched)
  | .ahead _ _ => (0, some 0)
  | .behind _ _ _ _ => (0, some 0)
  | .atomic body => width groups body

/-! ## Beginnings of groups -/

/-- A kind of groups. -/
inductive GroupKind
  | counted (name : Option Text)
  /-- Flags for what is in the group, or none. -/
  | part (on off : Text)
  | conditional (number : Nat)
  | ahead (negated : Bool)
  | behind (negated : Bool)
  | atomic

/-- What an opening parenthesis begins. -/
inductive Opening
  | comment
  /-- Flags for the whole pattern. -/
  | whole (on : Text)
  | reference (number : Nat)
  | group (kind : GroupKind)

/-- Reads the name of a group up to the character that ends it. -/
def readGroupName (terminator : Char) : Reading Text := do
  let name ← takeName "group name" terminator
  if Text.isIdentifier name then return name
  else failBack (.badGroupName name) (name.length + 1)

/-- The number of the group with a name that was just read. -/
def numberOfGroup (name : Text) : Reading Nat := do
  match (← get).groupNames.lookup name with
  | some number => return number
  | none => failBack (.unknownGroupName name) (name.length + 1)

/-- Reads a reference to a group by its name. -/
def readNamedReference : Reading Opening := do
  let name ← readGroupName ')'
  let number ← numberOfGroup name
  if !(← isClosed number) then failBack .openGroup (name.length + 1)
  checkLookBehind number
  return .reference number

/-- More groups than a pattern can have. -/
def groupLimit : Nat := 1073741823

/-- Reads a condition on a group, which is given by its name or its number.  There may be no group
with that number yet. -/
def readCondition : Reading GroupKind := do
  let name ← takeName "group name" ')'
  let number ←
    if Text.isIdentifier name then numberOfGroup name
    else
      -- whether there is a group of that number is known at the end of the pattern only
      match Text.numeral? name with
      | some (.ofNat number) =>
          if number = 0 then failBack .badGroupNumber (name.length + 1)
          if groupLimit ≤ number then failBack (.unknownGroup number) (name.length + 1)
          let position := (← here) - (name.length + 1)
          modify fun scan =>
            { scan with awaitedGroups := scan.awaitedGroups ++ [(number, position)] }
          pure number
      | _ => failBack (.badGroupName name) (name.length + 1)
  checkLookBehind number
  return .conditional number

/-- Skips a comment in parentheses that began at a place. -/
def skipComment (start : Nat) : Nat → Reading Unit
  | 0 => failAt .unterminatedComment start
  | fuel + 1 => do
      match ← take with
      | none => failAt .unterminatedComment start
      | some [')'] => return ()
      | some _ => skipComment start fuel

/-- Skips a comment that ends with its line. -/
def skipLineComment : Nat → Reading Unit
  | 0 => return ()
  | fuel + 1 => do
      match ← take with
      | none => return ()
      | some ['\n'] => return ()
      | some _ => skipLineComment fuel

/-- Reads the rest of an opening whose question mark is followed by a `P`. -/
def readNamedOpening : Reading Opening := do
  if ← takeIf '<' then return .group (.counted (some (← readGroupName '>')))
  if ← takeIf '=' then return ← readNamedReference
  let some next ← take | failBack .unexpectedEnd 0
  failBack (.unknownExtension ('P' :: next)) (next.length + 2)

/-- Reads which look-behind begins. -/
def readBehind : Reading GroupKind := do
  let some next ← take | failBack .unexpectedEnd 0
  match next with
  | ['='] => return .behind false
  | ['!'] => return .behind true
  | _ => failBack (.unknownExtension ('<' :: next)) (next.length + 2)

/-- Reads what stands behind an opening parenthesis, at a given place, up to the body of the group
if there is one. -/
def readOpening (start : Nat) : Reading Opening := do
  if !(← takeIf '?') then return .group (.counted none)
  let some sign ← take | failBack .unexpectedEnd 0
  match sign with
  | ['P'] => readNamedOpening
  | [':'] => return .group (.part [] [])
  | ['#'] =>
      skipComment start ((← get).tokens.length + 1)
      return .comment
  | ['='] => return .group (.ahead false)
  | ['!'] => return .group (.ahead true)
  | ['<'] => return .group (← readBehind)
  | ['('] => return .group (← readCondition)
  | ['>'] => return .group .atomic
  | _ =>
      if sign = ['-'] || isFlag sign then
        match ← readFlags sign with
        | .whole on => return .whole on
        | .part on off => return .group (.part on off)
      else failBack (.unknownExtension sign) (sign.length + 1)

/-! ## Groups -/

/-- Opens a group that is counted, with or without a name. -/
def openGroup (name : Option Text) : Reading Nat := do
  let scan ← get
  let number := scan.groupCount + 1
  match name with
  | none => pure ()
  | some name =>
      match scan.groupNames.lookup name with
      | some first => failBack (.nameTaken name number first) (name.length + 1)
      | none =>
          modify fun scan => { scan with groupNames := (name, number) :: scan.groupNames }
  modify fun scan => { scan with groupCount := number }
  return number

/-- Closes a group that is counted. -/
def closeGroup (number : Nat) (body : Pattern) : Reading Unit :=
  modify fun scan =>
    { scan with closedGroups := (number, width scan.closedGroups body) :: scan.closedGroups }

/-- Takes the parenthesis that closes a group begun at a place. -/
def closeParenthesis (start : Nat) : Reading Unit := do
  if !(← takeIf ')') then failAt .unterminatedGroup start

/-- Reads the body of a look-behind. -/
def inLookBehind {α : Type} (readBody : Reading α) : Reading α := do
  let outer := (← get).groupsBehind
  modify fun scan => { scan with groupsBehind := outer.or (some scan.groupCount) }
  let body ← readBody
  modify fun scan => { scan with groupsBehind := outer }
  return body

mutual

/-- Reads alternatives.  Flags for the whole pattern may stand at the beginning of the first one
when the alternatives are the whole pattern; they hold for the other ones as well. -/
def readChoice (flags : Flags) (outermost first : Bool) : Nat → Reading (List (List Pattern))
  | 0 => failBack .unexpectedEnd 0
  | fuel + 1 => do
      let alternative ← readSequence flags (outermost && first) [] fuel
      if ← takeIf '|' then
        let whole := (← get).wholeFlags
        let others := if outermost then Flags.none.with whole [] else flags
        return alternative :: (← readChoice others outermost false fuel)
      else return [alternative]

/-- Reads a sequence up to the end of its alternative. -/
def readSequence (flags : Flags) (flagsAllowed : Bool) (items : Items) :
    Nat → Reading (List Pattern)
  | 0 => failBack .unexpectedEnd 0
  | fuel + 1 => do
      let start ← here
      let next ← peek
      if next.isNone || next = some ['|'] || next = some [')'] then
        return items.parts
      let token := (← take).getD []
      let continueWith := fun (kind : ItemKind) (pattern : Pattern) =>
        readSequence flags flagsAllowed ((kind, [pattern]) :: items) fuel
      if flags.verbose && (token.all fun c => " \t\n\r\x0b\x0c".toList.contains c) then
        readSequence flags flagsAllowed items fuel
      else if flags.verbose && token = ['#'] then
        skipLineComment fuel
        readSequence flags flagsAllowed items fuel
      else match token with
      | ['\\', c] =>
          let pattern ← readEscape flags c
          let kind := match pattern with
            | .anchor _ => ItemKind.condition
            | _ => ItemKind.plain
          continueWith kind pattern
      | ['['] => continueWith .plain (← readSet flags.alphabet start)
      | ['.'] => continueWith .plain (.any flags.lineBreaks)
      | ['^'] => continueWith .condition (.anchor (.lineStart flags.everyLine))
      | ['$'] => continueWith .condition (.anchor (.lineEnd flags.everyLine))
      | ['('] =>
          match ← readOpening start with
          | .comment => readSequence flags flagsAllowed items fuel
          | .whole on =>
              if !flagsAllowed || !items.isEmpty then failAt .flagsNotAtStart start
              modify fun scan => { scan with wholeFlags := scan.wholeFlags ++ on }
              readSequence (flags.with on []) flagsAllowed items fuel
          | .reference number => continueWith .plain (.reference flags.alphabet number)
          | .group (.part [] []) =>
              -- the parts of the body are parts of the sequence, but are repeated together
              let body ← readBody flags start fuel
              readSequence flags flagsAllowed ((.plain, body) :: items) fuel
          | .group kind => continueWith .plain (← readGroup flags start kind fuel)
      | _ =>
          match ← readQuantifier token with
          | some (least, most) =>
              readSequence flags flagsAllowed (← repeatLast start least most items) fuel
          | none => continueWith .plain (literal flags (token.headD ' ').toNat)

/-- Reads the body of a group that began at a place, and the parenthesis that closes it. -/
def readBody (flags : Flags) (start : Nat) : Nat → Reading (List Pattern)
  | 0 => failBack .unexpectedEnd 0
  | fuel + 1 => do
      let all ← readChoice flags false false fuel
      closeParenthesis start
      return alternatives flags.alphabet all

/-- Reads the rest of a group that began at a place. -/
def readGroup (flags : Flags) (start : Nat) (kind : GroupKind) : Nat → Reading Pattern
  | 0 => failBack .unexpectedEnd 0
  | fuel + 1 => do
      match kind with
      | .counted name =>
          let number ← openGroup name
          let body := sequence (← readBody flags start fuel)
          closeGroup number body
          return .group number body
      | .conditional number =>
          let matched ← readSequence flags false [] fuel
          let unmatched ← if ← takeIf '|' then readSequence flags false [] fuel else pure []
          if (← peek) = some ['|'] then failBack .thirdBranch 0
          closeParenthesis start
          return .conditional number (sequence matched) (sequence unmatched)
      | .behind negated =>
          let body := sequence (← inLookBehind (readBody flags start fuel))
          let (least, most) := width (← get).closedGroups body
          return .behind negated least most body
      | .ahead negated => return .ahead negated (sequence (← readBody flags start fuel))
      | .atomic => return .atomic (sequence (← readBody flags start fuel))
      | .part on off => return sequence (← readBody (flags.with on off) start fuel)

end

/-! ## Whole patterns -/

/-- The greatest length that a look-behind can go back. -/
def lookBehindLimit : Nat := 4294967295

/-- The first reason for which a pattern cannot be searched for, as a template or at all. -/
def problem? (template : Bool) : Pattern → Option ReadProblem
  | .seq first second => (problem? template first).or (problem? template second)
  | .choice first second => (problem? template first).or (problem? template second)
  | .repeated _ _ greed body =>
      if template then some (.repeatInTemplate greed) else problem? template body
  | .group _ body => problem? template body
  | .conditional _ matched unmatched => (problem? template matched).or (problem? template unmatched)
  | .ahead _ body => problem? template body
  | .behind _ least most body =>
      if lookBehindLimit < least then some .lookBehindTooWide
      else if most ≠ some least then some .variableLookBehind
      else problem? template body
  | .atomic body => problem? template body
  | _ => none

/-- The set to which the first character of a match belongs, if the pattern begins with one. -/
def firstSet? : Pattern → Option (Alphabet × Bool × List SetMember)
  | .set alphabet negated members => some (alphabet, negated, members)
  | .seq .empty second => firstSet? second
  | .seq first _ => firstSet? first
  | .group _ body => firstSet? body
  | _ => none

/-- A pattern as it is searched for.  A search first looks for a character of the set that the pattern
begins with, and reads that set by the flags for the whole pattern, even if the set is under others;
it does not do so if it matters to the set that case is ignored. -/
def searched (ascii : Bool) (pattern : Pattern) : Pattern :=
  match pattern.firstSet? with
  | some (alphabet, negated, members) =>
      if alphabet.ascii = ascii || (alphabet.ignoreCase && members.any fun member =>
          member.isCased alphabet) then pattern
      else .seq (.ahead false (.set ⟨false, ascii⟩ negated members)) pattern
  | none => pattern

/-- Reads a whole pattern. -/
def readWhole (fuel : Nat) : Reading Pattern := do
  checkNext
  let all ← readChoice .none true true fuel
  let scan ← get
  let flags := Flags.none.with scan.wholeFlags []
  let pattern := sequence (alternatives flags.alphabet all)
  -- the order of the checks decides which fault is found
  if scan.wholeFlags.contains 'a' && scan.wholeFlags.contains 'u' then
    throw ⟨.alphabetConflict, none⟩
  if (← peek).isSome then failBack .unbalancedGroup 0
  match scan.awaitedGroups.find? fun awaited => scan.groupCount < awaited.1 with
  | some (number, position) => failAt (.unknownGroup number) position
  | none => pure ()
  match pattern.problem? (scan.wholeFlags.contains 't') with
  | some problem => throw ⟨problem, none⟩
  | none => return pattern.searched flags.alphabet.ascii

/-- The regular expression that a text holds. -/
def read (text : Text) : Except ReadFault Pattern :=
  let scan : Scan := ⟨tokens 0 text, text.length, [], 0, [], [], none, []⟩
  (readWhole (4 * text.length + 8)).run' scan

end HttpScript.Pattern
