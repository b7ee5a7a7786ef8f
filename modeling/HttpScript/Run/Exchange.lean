import HttpScript.Document.Block
import HttpScript.Placeholder.Expansion
import HttpScript.Text.Utf8

/-!
# HTTP exchanges

A call is what a run asks of the transport, a reply is what it gets back.  On the wire, headers of
one name are joined, the method is in capitals, and `GET` and `HEAD` carry no body.  The body of a
reply is text, JSON or, for anything else, the bytes in hexadecimal digits.  An exchange never
fails: what went wrong is the error text of the reply.
-/

namespace HttpScript

/-- A request as it is given to the transport, with a time limit in seconds. -/
structure Call extends ResolvedRequest where
  timeout : Int

/-- What the transport answers. -/
structure Reply where
  status : Int
  statusText : Text
  headers : List (Text × Text)
  body : Json
  /-- The body as text. -/
  rawText : Text
  /-- The time that the exchange took, in milliseconds. -/
  elapsed : Double
  /-- What went wrong; nothing if it is missing or empty. -/
  error : Option Text

/-- A request as it goes over the wire. -/
structure WireRequest where
  method : Text
  url : Text
  headers : List (Text × Text)
  data : Option Text
  timeout : Int

/-- A response as it comes over the wire. -/
structure WireResponse where
  status : Int
  reason : Option Text
  headers : List (Text × Text)
  content : List Nat

/-- Why no response came. -/
inductive WireFailure
  | timeout
  | connection (message : Text)
  | other (message : Text)

/-- What comes over the wire. -/
inductive WireReply
  | response (response : WireResponse)
  | failure (failure : WireFailure)

namespace Exchange

/-! ## Requests -/

/-- The values of one name, joined by commas. -/
def joinHeader (merged : Table Text) (header : Text × Text) : Table Text :=
  match Table.get? merged header.1 with
  | some value => Table.set merged header.1 (value ++ ", " ++ header.2)
  | none => Table.set merged header.1 header.2

/-- Headers with the values of each name joined, in the order in which names first occur. -/
def mergeHeaders (headers : List (Text × Text)) : Table Text :=
  headers.foldl joinHeader []

/-- The request that goes over the wire for a call. -/
def wireRequest (call : Call) : WireRequest :=
  let method := Text.toUpper call.method
  let bodyless := method = "GET".toList || method = "HEAD".toList
  { method, url := call.url, headers := mergeHeaders call.headers
    data := if bodyless then none else call.body.filter fun body => !body.isEmpty
    timeout := call.timeout }

/-! ## Responses -/

/-- Enters a header among others whose names are compared without regard to case: the later one of
two equal names stands in the place of the earlier one. -/
def enterHeader (header : Text × Text) : List (Text × Text) → List (Text × Text)
  | [] => [header]
  | known :: rest =>
      if Text.toLower known.1 = Text.toLower header.1 then header :: rest
      else known :: enterHeader header rest

/-- The headers of a response, each name once. -/
def responseHeaders (headers : List (Text × Text)) : List (Text × Text) :=
  headers.foldl (fun entered header => enterHeader header entered) []

/-- Bytes in hexadecimal digits. -/
def hexText (bytes : List Nat) : Text :=
  bytes.flatMap (Text.hexDigits 2)

/-- The body of a response by its content type. -/
def decodeBody (contentType : Text) (content : List Nat) : Json :=
  let text := Utf8.decode content
  if Text.startsWith "text/" contentType then .str text
  else if Text.occursIn "json" contentType then
    match Json.read (if text.isEmpty then "null".toList else text) with
    | .ok value => value
    | .error _ => .str text
  else if content.isEmpty then .null
  else .str (hexText content)

/-- The reply of a response. -/
def replyOfResponse (response : WireResponse) : Reply :=
  let headers := responseHeaders response.headers
  { status := response.status
    statusText := response.reason.getD []
    headers := headers.map fun (name, value) => (Text.toLower name, value)
    body := decodeBody ((findHeader headers "content-type").getD []) response.content
    rawText := Utf8.decode response.content
    elapsed := Double.signedZero false
    error := none }

/-- The error text of a failure, for a call with a time limit. -/
def failureText (timeout : Int) : WireFailure → Text
  | .timeout => "Request timed out after " ++ Text.ofInt timeout ++ "s"
  | .connection message => "Connection error: " ++ message
  | .other message => "Request failed: " ++ message

/-- A reply without a response. -/
def replyOfFailure (timeout : Int) (failure : WireFailure) : Reply :=
  { status := 0, statusText := [], headers := [], body := .null, rawText := []
    elapsed := Double.signedZero false, error := some (failureText timeout failure) }

/-- The reply to a call, from what comes over the wire. -/
def reply (call : Call) : WireReply → Reply
  | .response response => replyOfResponse response
  | .failure failure => replyOfFailure call.timeout failure

end Exchange

/-! ## Transports -/

/-- An answer that a transport has ready: a reply, or something that comes over the wire. -/
inductive Answer
  | reply (reply : Reply)
  | wire (reply : WireReply)

/-- A transport gives its answers in turn, and the last resort when they are used up. -/
structure Transport where
  answers : List Answer
  lastResort : Answer

namespace Transport

/-- The reply to a call. -/
def replyTo (call : Call) : Answer → Reply
  | .reply reply => reply
  | .wire wire => Exchange.reply call wire

/-- Sends a call: the reply and the transport afterwards. -/
def send (transport : Transport) (call : Call) : Reply × Transport :=
  match transport.answers with
  | [] => (replyTo call transport.lastResort, transport)
  | answer :: rest => (replyTo call answer, { transport with answers := rest })

end Transport

end HttpScript
