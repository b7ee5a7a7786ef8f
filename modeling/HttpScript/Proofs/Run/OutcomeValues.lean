import HttpScript.Proofs.Json.Written
import HttpScript.Proofs.Placeholder.Single
import HttpScript.Proofs.Query.Matching
import HttpScript.Proofs.Run.JsonBodies

/-!
# Values of outcomes in bodies

A placeholder can lead into the outcome of an earlier request.  What a query selects there is put
into the text as JSON, unless it is text itself, and it is not expanded again: strings inside it
may hold placeholders.  So a body that is one such placeholder is the JSON text of the value, and
reading it gives the value back.

Outcomes are registered under names as variables have them, so a name ends where the query begins.
-/

namespace HttpScript

/-! ## What a query selects -/

/-- No object inside a selected value has a key twice. -/
theorem Query.keysDistinct_of_mem_values {segments : List Segment} {value found : Json}
    (hkeys : value.KeysDistinct) (hfound : found ∈ values segments value) :
    found.KeysDistinct := by
  obtain ⟨node, hnode, rfl⟩ := List.mem_map.mp hfound
  exact Json.keysDistinct_of_at? hkeys ((mem_select_iff hkeys).mp hnode).2

theorem Query.keysDistinct_single {found : List Json}
    (hkeys : ∀ value ∈ found, value.KeysDistinct) : (single found).KeysDistinct := by
  unfold single
  split
  · trivial
  · next value => exact hkeys value List.mem_cons_self
  · rw [Json.KeysDistinct, Json.itemsKeysDistinct_iff]
    exact hkeys

/-- A value that is put into text as JSON: not `null`, no text and no floating point number. -/
def Json.isEmbedded : Json → Bool
  | .bool _ | .int _ | .list _ | .object _ => true
  | _ => false

theorem Json.plainText_of_isEmbedded {value : Json} (hembedded : value.isEmbedded = true) :
    value.plainText = value.write := by
  cases value with
  | null | str | float => cases hembedded
  | bool | int | list | object => rfl

namespace Scope

variable {scope : Scope} {name query : Text} {outcome value : Json}

theorem keysDistinct_of_outcomeValue (hkeys : outcome.KeysDistinct)
    (hvalue : outcomeValue outcome query = .ok value) : value.KeysDistinct := by
  unfold outcomeValue at hvalue
  split at hvalue
  · next segments _ =>
      obtain rfl := Except.ok.inj hvalue
      exact Query.keysDistinct_single fun found hfound =>
        Query.keysDistinct_of_mem_values hkeys hfound
  · cases hvalue

/-- A placeholder that leads into an outcome is done with the JSON text of the value there. -/
theorem lead_outcomePath (hname : Text.isName name = true)
    (hregistered : Table.get? scope.outcomes name = some outcome)
    (hvalue : outcomeValue outcome query = .ok value) (hembedded : value.isEmbedded = true)
    (inGlobal : Bool) :
    scope.lead inGlobal (name ++ '.' :: query) = .done (pure value.write) := by
  have hcall : isCall (name ++ '.' :: query) = false := by
    rw [isCall, decide_eq_false_iff_not,
      List.head?_append_of_ne_nil _ (Text.ne_nil_of_isName hname)]
    exact fun hhead =>
      Text.notMem_name (by decide) (by decide) hname (List.mem_of_mem_head? hhead)
  have hpath : scope.outcomePath? (name ++ '.' :: query) = some (outcome, query) := by
    rw [outcomePath?, Text.splitAt?_append (Text.notMem_name (by decide) (by decide) hname)]
    simp [hregistered]
  have hlookup : scope.lookup inGlobal (name ++ '.' :: query) = .ok (value, true) := by
    rw [lookup, hpath]
    dsimp only
    rw [hvalue]
    rfl
  rw [lead, hcall, if_neg Bool.false_ne_true, hlookup, ← Json.plainText_of_isEmbedded hembedded]
  cases value with
  | str => cases hembedded
  | _ => rfl

theorem expand_outcomePath (hname : Text.isName name = true)
    (hquery : query.FitsPlaceholder)
    (hregistered : Table.get? scope.outcomes name = some outcome)
    (hvalue : outcomeValue outcome query = .ok value) (hembedded : value.isEmbedded = true) :
    expand scope (writePlaceholder (name ++ '.' :: query)) = pure value.write := by
  have hfollow : scope.follow [] false (name ++ '.' :: query) = .done (pure value.write) := by
    rw [follow, List.contains_nil, Bool.and_false, if_neg Bool.false_ne_true]
    exact lead_outcomePath hname hregistered hvalue hembedded false
  have hexpand := expandBehind_writePlaceholder scope [] false (.outcomePath hname hquery)
  rw [hfollow] at hexpand
  exact hexpand

end Scope

/-! ## Bodies that are one value -/

/-- The JSON text of a value is decoded to the value. -/
theorem Outcome.decodeBody_write {request : Request} {value : Json} (hjson : request.isJson = true)
    (hkeys : value.KeysDistinct) (hembedded : value.isEmbedded = true)
    (hfloat : value.HasNoFloat) : decodeBody request (some value.write) = .ok (some value) := by
  have hne : value.write ≠ [] := by
    obtain ⟨c, more, hwrite, -⟩ := Json.exists_write_eq_cons (Json.throughout_iff.mp hfloat).1
    rw [hwrite]
    exact List.cons_ne_nil c more
  rw [decodeBody_of_isJson hjson hne, Json.read_write hkeys hfloat]
  cases value with
  | null => cases hembedded
  | _ => rfl

theorem Outcome.at?_toJson_body {outcome : Outcome} {body : Json}
    (hbody : outcome.body = some body) :
    outcome.toJson.at? [.key "request", .key "body"] = some body := by
  rw [toJson, hbody]
  rfl

/-- A boolean, a whole number, a list or an object that a query finds in a registered outcome, with
no floating point number in it, comes through a body that is the placeholder for it: the text that
is put in is read as the very value.  The body of a request that is sent as JSON is decoded to the
value, and if it is answered, its outcome records the value. -/
theorem outcomeValue_comes_through {scope : Scope} {name query : Text} {outcome value : Json}
    (hname : Text.isName name = true) (hquery : query.FitsPlaceholder)
    (hregistered : Table.get? scope.outcomes name = some outcome) (hkeys : outcome.KeysDistinct)
    (hvalue : Scope.outcomeValue outcome query = .ok value) (hembedded : value.isEmbedded = true)
    (hfloat : value.HasNoFloat) :
    let written := writePlaceholder (name ++ '.' :: query)
    (∀ sources, (expand scope written).outcome sources = (.ok value.write, sources)) ∧
      Json.read value.write = .ok value ∧
      ∀ settings (turn : Turn), turn.scope settings = scope → turn.request.isJson = true →
        turn.request.body = some written →
        (∀ sent, turn.resolved settings = .ok sent → sent.body = some value.write ∧
          Outcome.decodeBody turn.request sent.body = .ok (some value) ∧
          (turn.isSkipped = false → (turn.reply settings sent).failure? = none →
            ∃ recorded, turn.outcome? settings = some recorded)) ∧
        ∀ recorded, turn.outcome? settings = some recorded →
          recorded.body = some value ∧
            recorded.toJson.at? [.key "request", .key "body"] = some value := by
  intro written
  have hvalueKeys := Scope.keysDistinct_of_outcomeValue hkeys hvalue
  have hexpand : expand scope written = pure value.write :=
    Scope.expand_outcomePath hname hquery hregistered hvalue hembedded
  refine ⟨fun sources => ?_, Json.read_write hvalueKeys hfloat,
    fun settings turn hscope hjson hbody => ?_⟩
  · rw [hexpand]
    rfl
  have hdecoded (sent : ResolvedRequest) (hresolved : turn.resolved settings = .ok sent) :
      sent.body = some value.write ∧
        Outcome.decodeBody turn.request sent.body = .ok (some value) := by
    have hsent : sent.body = some value.write :=
      Request.body_of_resolve hresolved hbody (hscope ▸ hexpand)
    rw [hsent]
    exact ⟨rfl, Outcome.decodeBody_write hjson hvalueKeys hembedded hfloat⟩
  refine ⟨fun sent hresolved => ?_, fun recorded hrecorded => ?_⟩
  · obtain ⟨hsent, hdecode⟩ := hdecoded sent hresolved
    exact ⟨hsent, hdecode, fun hruns hfailure =>
      ⟨_, Turn.outcome?_of_answered hruns hresolved hdecode hfailure⟩⟩
  · obtain ⟨sent, hresolved, hrecord⟩ := Turn.exists_of_outcome? hrecorded
    obtain ⟨-, hdecode⟩ := hdecoded sent hresolved
    have hvalue : recorded.body = some value := Except.ok.inj (hrecord.symm.trans hdecode)
    exact ⟨hvalue, Outcome.at?_toJson_body hvalue⟩

/-- Strings that a query finds are put into a list.  One of them looks like a placeholder and
another is not ASCII; the outcome of the request records both as they are. -/
theorem outcomeValue_comes_through_list :
    ∃ (turn : Turn) (recorded : Outcome),
      (Table.get? (turn.scope ⟨[], 30⟩).outcomes "a").isSome = true ∧
      turn.request.body = some "\x7b\x7ba.request.body[*]\x7d\x7d".toList ∧
      turn.outcome? ⟨[], 30⟩ = some recorded ∧
      recorded.body = some (.list [.str "\x7b\x7bx\x7d\x7d", .str "é😀"]) := by
  let value : Json := .list [.str "\x7b\x7bx\x7d\x7d", .str "é😀"]
  let former : Outcome := .ofReply ⟨"GET", "/", [], none⟩
    (some (.object [("c", .str "\x7b\x7bx\x7d\x7d"), ("d", .str "é😀")])) (.ofStatus 200)
  let turn : Turn := ⟨[], false,
    .post "application/json" "\x7b\x7ba.request.body[*]\x7d\x7d" [],
    { Session.start [200] with outcomes := [("a", former)] }⟩
  have htrim : Text.trim "request.body[*]" = "request.body[*]".toList := by decide
  have hquery : Text.FitsPlaceholder "request.body[*]" :=
    ⟨by decide, by decide, by decide, htrim ▸ Text.isTrimmed_trim "request.body[*]"⟩
  have hkeys : former.toJson.KeysDistinct := by
    simp [former, Outcome.toJson, Outcome.ofReply, Outcome.headersJson, Json.KeysDistinct,
      Json.fieldsKeysDistinct, Json.itemsKeysDistinct, Reply.ofStatus, Json.nonEmpty?]
  have hfloat : value.HasNoFloat := by
    simp [value, Json.HasNoFloat, Json.Throughout, Json.descendants, Json.itemDescendants,
      Json.isFloat]
  have hname : Text.isName "a" = true := by decide
  have hregistered : Table.get? (turn.scope ⟨[], 30⟩).outcomes "a" = some former.toJson := rfl
  have hvalue : Scope.outcomeValue former.toJson "request.body[*]" = .ok value := rfl
  obtain ⟨-, -, hturns⟩ :=
    outcomeValue_comes_through hname hquery hregistered hkeys hvalue rfl hfloat
  obtain ⟨hsent, hrecorded⟩ := hturns ⟨[], 30⟩ turn rfl (by decide) rfl
  obtain ⟨-, -, hanswered⟩ := hsent _ rfl
  obtain ⟨recorded, houtcome⟩ := hanswered rfl rfl
  exact ⟨turn, recorded, rfl, rfl, houtcome, (hrecorded recorded houtcome).1⟩

end HttpScript
