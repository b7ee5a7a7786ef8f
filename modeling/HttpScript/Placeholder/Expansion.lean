import HttpScript.Json.Writer
import HttpScript.Placeholder.Function

/-!
# Expansion of placeholders

A text is cut into plain text and placeholders.  A placeholder calls a function, or it is looked up:
as a path into the outcome of an earlier request, among the local variables, among the global ones,
and in the environment.  A text that is found is expanded in turn.  Texts from anywhere but a local
variable see no local variables.

Expansion cannot go on for ever: the placeholders on the way from the text to the present one are
distinct, and all of them are written in the texts of the scope.  Their number is the fuel that
`expand` is given, and a repeated one is reported as a cycle.
-/

namespace HttpScript

/-- Plain text or a placeholder. -/
inductive Piece
  | plain (text : Text)
  | hole (identifier : Text)
deriving DecidableEq, Repr

namespace Piece

/-- What stands before the first opening of a placeholder, and what stands after each opening up to
the next. -/
def splitOpenings : Text → Text × List Text
  | [] => ([], [])
  | '\x7b' :: '\x7b' :: rest =>
      let (head, fragments) := splitOpenings rest
      ([], head :: fragments)
  | c :: rest =>
      let (head, fragments) := splitOpenings rest
      (c :: head, fragments)

/-- What stands before the first closing of a placeholder, and what stands after it. -/
def splitClosing : Text → Option (Text × Text)
  | [] => none
  | '\x7d' :: '\x7d' :: rest => some ([], rest)
  | c :: rest => (splitClosing rest).map fun (before, after) => (c :: before, after)

/-- The pieces of what stands after an opening; without a closing it is plain text. -/
def ofFragment (fragment : Text) : List Piece :=
  match splitClosing fragment with
  | some (identifier, rest) => [.hole (Text.trim identifier), .plain rest]
  | none => [.plain ('\x7b' :: '\x7b' :: fragment)]

/-- The pieces of a text. -/
def ofText (text : Text) : List Piece :=
  let (head, fragments) := splitOpenings text
  .plain head :: fragments.flatMap ofFragment

/-- The identifier of a placeholder. -/
def identifier? : Piece → Option Text
  | .plain _ => none
  | .hole identifier => some identifier

end Piece

/-- The identifiers of the placeholders of a text. -/
def placeholders (text : Text) : List Text :=
  (Piece.ofText text).filterMap Piece.identifier?

/-- What placeholders can refer to. -/
structure Scope where
  env : Table Text
  globals : Table Variable
  locals : Table Variable
  outcomes : Table Json

mutual

/-- The strings inside a value. -/
def Json.texts : Json → List Text
  | .str text => [text]
  | .list items => Json.itemTexts items
  | .object fields => Json.fieldTexts fields
  | _ => []

/-- The strings inside the items of a list. -/
def Json.itemTexts : List Json → List Text
  | [] => []
  | item :: rest => Json.texts item ++ Json.itemTexts rest

/-- The strings inside the values of fields. -/
def Json.fieldTexts : List (Text × Json) → List Text
  | [] => []
  | (_, value) :: rest => Json.texts value ++ Json.fieldTexts rest

end

/-- The value of a variable; one without text is true. -/
def Variable.toValue (declared : Variable) : Json :=
  (declared.value.map Json.str).getD (.bool true)

namespace Scope

/-- Every text that a placeholder can lead to. -/
def texts (scope : Scope) : List Text :=
  (scope.locals.filterMap fun entry => entry.2.value) ++
    (scope.globals.filterMap fun entry => entry.2.value) ++
    scope.env.map Prod.snd ++ scope.outcomes.flatMap fun entry => entry.2.texts

/-- Every placeholder that can be met while a text is expanded. -/
def reachable (scope : Scope) (text : Text) : List Text :=
  (text :: scope.texts).flatMap placeholders

/-- The outcome that an identifier leads into, and the path to follow in it. -/
def outcomePath? (scope : Scope) (identifier : Text) : Option (Json × Text) := do
  let (name, path) ← Text.splitAt? '.' identifier
  return (← Table.get? scope.outcomes name, path)

/-- The value at a path of an outcome. -/
def outcomeValue (outcome : Json) (path : Text) : Except Fault Json :=
  match Query.read path with
  | .ok segments => .ok (Query.single (Query.values segments outcome))
  | .error fault => .error (Fault.ofQuery path fault)

/-- The value of an identifier among the global variables and in the environment. -/
def lookupGlobal (scope : Scope) (missing : Text → Problem) (identifier : Text) :
    Except Fault (Json × Bool) :=
  match Table.get? scope.globals identifier with
  | some declared => .ok (declared.toValue, true)
  | none =>
      match Table.get? scope.env identifier with
      | some text => .ok (.str text, true)
      | none => .error (.problem (missing identifier))

/-- The value of an identifier, and whether its text sees global values only. -/
def lookup (scope : Scope) (inGlobal : Bool) (identifier : Text) : Except Fault (Json × Bool) :=
  match scope.outcomePath? identifier with
  | some (outcome, path) => do return (← outcomeValue outcome path, true)
  | none =>
      if inGlobal then scope.lookupGlobal .hiddenVariable identifier
      else match Table.get? scope.locals identifier with
        | some declared => .ok (declared.toValue, declared.isGlobal)
        | none => scope.lookupGlobal .undefinedVariable identifier

end Scope

/-! ## Following placeholders -/

/-- Whether a placeholder calls a function. -/
def isCall (identifier : Text) : Bool :=
  identifier.head? = some '$'

/-- What a placeholder leads to: its own text, or a text to be expanded in turn, and whether that
text sees global values only. -/
inductive Lead
  | done (found : Expanding Text)
  | text (inGlobal : Bool) (value : Text)

namespace Scope

/-- What a placeholder leads to, wherever it was met before. -/
def lead (scope : Scope) (inGlobal : Bool) (identifier : Text) : Lead :=
  if isCall identifier then .done (Function.evaluate identifier)
  else match scope.lookup inGlobal identifier with
    | .error fault => .done (throw fault)
    | .ok (.str value, isGlobal) => .text isGlobal value
    | .ok (value, _) => .done (pure value.plainText)

/-- What a placeholder leads to behind the placeholders of a path, none of which it may repeat. -/
def follow (scope : Scope) (path : List Text) (inGlobal : Bool) (identifier : Text) : Lead :=
  if !isCall identifier && path.contains identifier then
    .done (throw (.problem (.cycle (path ++ [identifier]))))
  else scope.lead inGlobal identifier

end Scope

/-! ## Expansion -/

/-- Fills the placeholders among pieces, from the first to the last. -/
def fillPieces (fill : Text → Expanding Text) : List Piece → Expanding Text
  | [] => pure []
  | .plain text :: rest => do return text ++ (← fillPieces fill rest)
  | .hole identifier :: rest => do
      let value ← fill identifier
      return value ++ (← fillPieces fill rest)

/-- Expands a text that was reached through the placeholders of a path. -/
def expandFrom (scope : Scope) : Nat → List Text → Bool → Text → Expanding Text
  | 0, path, _, _ => throw (.problem (.cycle path))
  | fuel + 1, path, inGlobal, text =>
      fillPieces (fun identifier =>
        match scope.follow path inGlobal identifier with
        | .done found => found
        | .text isGlobal value => expandFrom scope fuel (path ++ [identifier]) isGlobal value)
        (Piece.ofText text)

/-- Expands every placeholder of a text. -/
def expand (scope : Scope) (text : Text) : Expanding Text :=
  expandFrom scope ((scope.reachable text).length + 1) [] false text

/-- A request with its placeholders expanded. -/
structure ResolvedRequest where
  method : Text
  url : Text
  headers : List (Text × Text)
  body : Option Text
deriving DecidableEq, Repr

/-- Expands the values of headers, from the first to the last. -/
def expandHeaders (scope : Scope) : List (Text × Text) → Expanding (List (Text × Text))
  | [] => pure []
  | (name, value) :: rest => do
      let value ← expand scope value
      return (name, value) :: (← expandHeaders scope rest)

/-- Expands a text that may be missing. -/
def expandOptional (scope : Scope) : Option Text → Expanding (Option Text)
  | none => pure none
  | some text => do return some (← expand scope text)

/-- Expands the address of a request, the values of its headers and its body, in this order. -/
def Request.resolve (request : Request) (scope : Scope) : Expanding ResolvedRequest := do
  let url ← expand scope request.url
  let headers ← expandHeaders scope request.headers
  let body ← expandOptional scope request.body
  return { method := request.method, url, headers, body }

end HttpScript
