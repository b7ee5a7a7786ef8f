import HttpScript.Fault
import HttpScript.Run.Exchange

/-!
# Outcomes

The outcome of a request is the request as it was sent together with the response.  Later requests
can refer to it, expectations are checked against it, and a redacted copy of it is reported.
-/

namespace HttpScript

/-- A request together with the response to it. -/
structure Outcome where
  method : Text
  url : Text
  headers : List (Text × Text)
  /-- The body that was sent, decoded where it is JSON. -/
  body : Option Json
  status : Int
  statusText : Text
  responseHeaders : List (Text × Text)
  /-- The body of the response; an empty one is none. -/
  responseBody : Option Json
  elapsed : Double

/-- A value that is neither `null` nor the empty text. -/
def Json.nonEmpty? : Json → Option Json
  | .null => none
  | .str [] => none
  | value => some value

namespace Outcome

/-- Headers as JSON: a list of pairs. -/
def headersJson (headers : List (Text × Text)) : Json :=
  .list (headers.map fun (name, value) => .list [.str name, .str value])

/-- The body of a request as it is recorded: `null` counts as none. -/
def decodeBody (request : Request) (body : Option Text) : Except Fault (Option Json) :=
  match body with
  | none => .ok none
  | some [] => .ok none
  | some body =>
      if request.isJson then
        match Json.read body with
        | .ok .null => .ok none
        | .ok value => .ok (some value)
        | .error fault =>
            .error (.problem (.document ⟨.badJsonBody fault.problem, request.line, body⟩))
      else .ok (some (.str body))

/-- The outcome of a request that was answered. -/
def ofReply (sent : ResolvedRequest) (body : Option Json) (reply : Reply) : Outcome :=
  { method := sent.method, url := sent.url, headers := sent.headers, body
    status := reply.status, statusText := reply.statusText, responseHeaders := reply.headers
    responseBody := reply.body.nonEmpty?, elapsed := reply.elapsed }

/-- An outcome as JSON, as queries see it. -/
def toJson (outcome : Outcome) : Json :=
  .object
    [("request", .object
        ([("method".toList, .str outcome.method), ("url".toList, .str outcome.url),
            ("headers".toList, headersJson outcome.headers)] ++
          (outcome.body.map fun body => ("body".toList, body)).toList)),
      ("response", .object
        ([("status".toList, .int outcome.status), ("statusText".toList, .str outcome.statusText),
            ("headers".toList, headersJson outcome.responseHeaders)] ++
          (outcome.responseBody.map fun body => ("body".toList, body)).toList))]

/-! ## Redaction -/

/-- Headers of a response that change from call to call. -/
def volatileHeaders : List Text := ["age", "date"]

/-- Whether the value of a header is hidden. -/
def isHidden (pattern : Option Pattern) (name : Text) : Bool :=
  volatileHeaders.contains name || pattern.any fun pattern => pattern.search name

/-- What is left of a pair of name and value: the value is replaced if the header is hidden.  A pair
that was replaced as a whole by a text has no value. -/
def hidePair (pattern : Option Pattern) : Json → Except Fault Json
  | .list (.str name :: value :: rest) =>
      let value := if isHidden pattern name then .str Redaction.mark else value
      .ok (.list (.str name :: value :: rest))
  | .str (c :: rest) =>
      if isHidden pattern [c] then .error (.breakdown (.redaction .noWayIn))
      else .ok (.str (c :: rest))
  | pair => .ok pair

/-- The headers with the values of hidden ones replaced.  Headers that were replaced as a whole by a
text are gone through character by character. -/
def hideHeaders (pattern : Option Pattern) : Json → Except Fault Json
  | .list pairs => do return .list (← pairs.mapM (hidePair pattern))
  | .str text => do
      let _ ← text.mapM fun c => hidePair pattern (.str [c])
      return .str text
  | headers => .ok headers

/-- The fields of a response with the values of hidden headers replaced. -/
def hideResponse (pattern : Option Pattern) : Json → Except Fault Json
  | .object fields =>
      match Table.get? fields "headers" with
      | some headers => do
          return .object (Table.set fields "headers" (← hideHeaders pattern headers))
      | none => .ok (.object fields)
  | _ => .error (.breakdown (.redaction .noWayIn))

/-- The pattern of a directive; it was checked when the directive was read. -/
def pattern? (text : Text) : Option Pattern :=
  (Pattern.read text).toOption

/-- The outcome of a request as it is reported: ignored paths and volatile headers replaced. -/
def redacted (outcome : Outcome) (directives : Directives) : Except Fault Json := do
  let result := Redaction.redact (.str Redaction.mark) directives.ignoredPaths outcome.toJson
  let data ← result.mapError Fault.ofRedaction
  let pattern := (directives.text? "ignoreHeaders").bind pattern?
  match data with
  | .object fields =>
      match Table.get? fields "response" with
      | some response => do
          return .object (Table.set fields "response" (← hideResponse pattern response))
      | none => return data
  | _ => return data

end Outcome

end HttpScript
