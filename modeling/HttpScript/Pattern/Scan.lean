import HttpScript.Pattern.Fault

/-!
# The tokens of a regular expression

A pattern is read token by token: a token is a character, or a backslash with the character after
it.  A fault is placed at the token that comes next, or a number of characters before it.
-/

namespace HttpScript.Pattern

/-- A character, or a backslash with the character after it, and its place in the pattern. -/
structure Token where
  position : Nat
  text : Text

/-- The tokens of a pattern. -/
def tokens (position : Nat) : Text → List Token
  | '\\' :: c :: rest => ⟨position, ['\\', c]⟩ :: tokens (position + 2) rest
  | c :: rest => ⟨position, [c]⟩ :: tokens (position + 1) rest
  | [] => []

/-- What is known while a pattern is read. -/
structure Scan where
  tokens : List Token
  length : Nat
  /-- The letters of the flags for the whole pattern. -/
  wholeFlags : Text
  groupCount : Nat
  groupNames : List (Text × Nat)
  /-- The closed groups with the least and the greatest length of their matches. -/
  closedGroups : List (Nat × Nat × Option Nat)
  /-- The number of groups before the outermost of the look-behinds that are open. -/
  groupsBehind : Option Nat
  /-- The groups whose numbers stand in conditions, in order, with the places of the numbers. -/
  awaitedGroups : List (Nat × Nat)

/-- A step of reading. -/
abbrev Reading := StateT Scan (Except ReadFault)

/-- The place of the next token, or the length of the pattern. -/
def here : Reading Nat := do
  let scan ← get
  return (scan.tokens.head?.map Token.position).getD scan.length

/-- Fails at a place. -/
def failAt {α : Type} (problem : ReadProblem) (position : Nat) : Reading α :=
  throw ⟨problem, some position⟩

/-- Fails a number of characters before the next token. -/
def failBack {α : Type} (problem : ReadProblem) (back : Nat) : Reading α := do
  failAt problem ((← here) - back)

/-- The next token, which stays where it is. -/
def peek : Reading (Option Text) := do
  return (← get).tokens.head?.map Token.text

/-- A lone backslash ends the pattern with a fault as soon as it comes next. -/
def checkNext : Reading Unit := do
  if (← peek) = some ['\\'] then failAt .badEscapeAtEnd ((← get).length - 1)

/-- Takes the next token. -/
def take : Reading (Option Text) := do
  let token ← peek
  modify fun scan => { scan with tokens := scan.tokens.drop 1 }
  checkNext
  return token

/-- Takes the next token if it is a given character. -/
def takeIf (c : Char) : Reading Bool := do
  if (← peek) = some [c] then
    let _ ← take
    return true
  return false

/-- Takes up to a number of tokens that are characters of a kind. -/
def takeWhile (kind : Char → Bool) : Nat → Reading Text
  | 0 => return []
  | count + 1 => do
      match ← peek with
      | some [c] =>
          if kind c then
            let _ ← take
            return c :: (← takeWhile kind count)
          else return []
      | _ => return []

/-- Takes what stands before the character that ends it, after what was taken before. -/
def takeNameAfter (what : Text) (terminator : Char) : Nat → Text → Reading Text
  | 0, name => return name
  | fuel + 1, name => do
      match ← take with
      | none =>
          if name.isEmpty then failBack (.missingName what) 0
          else failBack (.unterminatedName terminator) name.length
      | some token =>
          if token = [terminator] then
            if name.isEmpty then failBack (.missingName what) 1 else return name
          else takeNameAfter what terminator fuel (name ++ token)

/-- Takes a name of some sort and the character that ends it. -/
def takeName (what : Text) (terminator : Char) : Reading Text := do
  takeNameAfter what terminator ((← get).tokens.length + 1) []

end HttpScript.Pattern
