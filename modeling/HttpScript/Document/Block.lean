import HttpScript.Document.Directive

/-!
# Blocks and requests

A document is a list of blocks.  A block declares variables and gives directives, and at most one
request follows them.
-/

namespace HttpScript

/-- A declared variable; one without `=` has no text. -/
structure Variable where
  value : Option Text
  isGlobal : Bool
deriving DecidableEq, Repr

/-- The variables and directives of one block; its line is the one of its request or else the first
one of the block. -/
structure Block where
  line : Nat
  declared : Table Variable
  directives : Directives

/-- A request as it is written, before its placeholders are expanded. -/
structure Request extends Block where
  method : Text
  url : Text
  headers : List (Text × Text)
  body : Option Text
  /-- The body as JSON, where it is sent as JSON and has no placeholders. -/
  bodyJson : Option Json

/-- What a block of a document amounts to. -/
inductive Record
  | bare (block : Block)
  | request (request : Request)

namespace Variable

/-- A variable as JSON. -/
def toJson (declared : Variable) : Json :=
  .object [("value", (declared.value.map Json.str).getD (.bool true)),
    ("global", .bool declared.isGlobal)]

end Variable

namespace Block

/-- A block in which nothing was declared yet. -/
def start (line : Nat) : Block :=
  ⟨line, [], []⟩

/-- Whether nothing was declared in a block. -/
def isEmpty (block : Block) : Bool :=
  block.declared.isEmpty && block.directives.isEmpty

/-- The fields of a block as JSON. -/
def jsonFields (block : Block) : List (Text × Json) :=
  ("line".toList, Json.int block.line) ::
    (if block.declared.isEmpty then []
      else [("variables".toList, .object (block.declared.map fun (name, declared) =>
        (name, declared.toJson)))]) ++
    (if block.directives.isEmpty then [] else [("meta".toList, block.directives.toJson)])

end Block

/-- The first header of a name, compared without regard to case. -/
def findHeader (headers : List (Text × Text)) (name : Text) : Option Text :=
  (headers.find? fun header => Text.toLower header.1 = Text.toLower name).map Prod.snd

namespace Request

/-- The name under which the outcome of a request is registered. -/
def name? (request : Request) : Option Text :=
  request.directives.text? "name"

/-- The first header of a name, compared without regard to case. -/
def header? (request : Request) (name : Text) : Option Text :=
  findHeader request.headers name

/-- Whether a content type names JSON. -/
def namesJson (contentType : Text) : Bool :=
  Text.occursIn "json" (Text.toLower contentType)

/-- Whether the body is sent as JSON. -/
def isJson (request : Request) : Bool :=
  (request.header? "content-type").any namesJson

/-- The expectations of a request: those that are written out, then those of its status. -/
def expectations (request : Request) : List Expectation :=
  request.directives.expectations ++ request.directives.statusExpectations

/-- A request as JSON. -/
def toJson (request : Request) : Json :=
  .object (request.jsonFields ++
    [("method".toList, .str request.method), ("url".toList, .str request.url)] ++
    (if request.headers.isEmpty then []
      else [("headers".toList, .list (request.headers.map fun (name, value) =>
        .list [.str name, .str value]))]) ++
    (request.body.map fun body => ("body".toList, Json.str body)).toList)

end Request

namespace Record

/-- The block of a record. -/
def block : Record → Block
  | .bare inner => inner
  | .request inner => inner.toBlock

/-- The request of a record, if it has one. -/
def request? : Record → Option Request
  | .bare _ => none
  | .request inner => some inner

/-- A record as JSON. -/
def toJson : Record → Json
  | .bare inner => .object inner.jsonFields
  | .request inner => inner.toJson

end Record

/-- The requests of a document. -/
def requestsOf (records : List Record) : List Request :=
  records.filterMap Record.request?

/-- The global variables of a document, whichever block declares them; the last declaration of a
name counts. -/
def collectGlobals (records : List Record) : Table Variable :=
  Table.ofEntries
    ((records.flatMap fun record => record.block.declared).filter fun entry => entry.2.isGlobal)

end HttpScript
