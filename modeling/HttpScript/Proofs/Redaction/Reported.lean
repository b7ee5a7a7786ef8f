import HttpScript.Proofs.Redaction
import HttpScript.Proofs.Redaction.Selected

/-!
# What the reported copy of an outcome shows

The copy of an outcome that is reported is the outcome with a mark in two kinds of places: those
that the ignored paths select, and the values of hidden headers of the response.  The second kind is
marked by a pass over the headers, after the redaction.  As long as the paths keep away from the
headers this pass finds them as they were, so that it covers places too, and the reported copy is a
single cover of the outcome (`redacted_eq_cover`).

A cover does not show what it lies over (`cover_eq_cover`).  So two outcomes that have the same
outermost covered places and are alike everywhere else have the same reported copy.
-/

namespace HttpScript

namespace Json

/-- Values of one shape become the same if the children behind every step become the same. -/
theorem mapChildren_eq_of_sameShape {value other : Json} {change changeOther : Step → Json → Json}
    (hkeys : value.KeysDistinct) (hkeysOther : other.KeysDistinct)
    (hshape : SameShape value other)
    (hchange : ∀ step child childOther, value.child? step = some child →
      other.child? step = some childOther → change step child = changeOther step childOther) :
    value.mapChildren change = other.mapChildren changeOther := by
  cases value with
  | list items =>
      cases other with
      | list others =>
          have hlength : items.length = others.length := hshape
          rw [mapChildren, mapChildren, list.injEq]
          refine List.ext_getElem (by simp [hlength]) fun index hindex hindexOther => ?_
          rw [List.length_mapIdx] at hindex hindexOther
          rw [List.getElem_mapIdx, List.getElem_mapIdx]
          exact hchange (.index index) _ _ (List.getElem?_eq_getElem hindex)
            (List.getElem?_eq_getElem hindexOther)
      | _ => cases hshape
  | object fields =>
      cases other with
      | object others =>
          have hnames : Table.names fields = Table.names others := hshape
          rw [KeysDistinct] at hkeys hkeysOther
          rw [mapChildren, mapChildren, object.injEq]
          have hlength : fields.length = others.length := by
            simpa [Table.names] using congrArg List.length hnames
          refine List.ext_getElem (by simp [hlength]) fun index hindex hindexOther => ?_
          rw [List.length_map] at hindex hindexOther
          rw [List.getElem_map, List.getElem_map]
          have hname : fields[index].1 = others[index].1 := by
            have hsame := List.getElem_of_eq hnames (by simpa [Table.names] using hindex)
            simpa [Table.names] using hsame
          refine Prod.ext hname ?_
          have hfield : Table.get? fields fields[index].1 = some fields[index].2 :=
            (Table.get?_eq_some_iff_mem hkeys.1).mpr (List.getElem_mem hindex)
          have hfieldOther : Table.get? others others[index].1 = some others[index].2 :=
            (Table.get?_eq_some_iff_mem hkeysOther.1).mpr (List.getElem_mem hindexOther)
          rw [← hname] at hfieldOther
          rw [← hname]
          exact hchange (.key fields[index].1) _ _ hfield hfieldOther
      | _ => cases hshape
  | null | bool _ | int _ | float _ | str _ =>
      obtain rfl : _ = other := hshape
      rfl

theorem SameShape.trans {value middle other : Json} (hfirst : SameShape value middle)
    (hsecond : SameShape middle other) : SameShape value other := by
  cases value with
  | list items =>
      cases middle with
      | list middles =>
          cases other with
          | list others => exact Eq.trans hfirst hsecond
          | _ => cases hsecond
      | _ => cases hfirst
  | object fields =>
      cases middle with
      | object middles =>
          cases other with
          | object others => exact Eq.trans hfirst hsecond
          | _ => cases hsecond
      | _ => cases hfirst
  | null | bool _ | int _ | float _ | str _ =>
      obtain rfl : _ = middle := hfirst
      exact hsecond

end Json

namespace Redaction

/-! ## A cover does not show what it lies over -/

/-- A covered location above which nothing is covered. -/
def IsOutermost (covered : Location → Bool) (way : Location) : Prop :=
  covered way = true ∧ ClearAbove covered way

/-- A location that is neither covered nor below a covered one. -/
def IsOpen (covered : Location → Bool) (way : Location) : Prop :=
  ∀ before, before <+: way → covered before = false

/-- Two values, each with covered locations, have the same outermost covered locations and are alike
everywhere else. -/
structure AgreeInOpen (first second : Location → Bool) (value other : Json) : Prop where
  outermost_iff : ∀ way, IsOutermost first way ↔ IsOutermost second way
  sameShape : ∀ way, IsOpen first way →
    Option.Rel Json.SameShape (value.at? way) (other.at? way)

variable {first second covered : Location → Bool} {value other child childOther : Json}
  {step : Step} {way : Location}

theorem isOutermost_cons_iff (hroot : covered [] = false) :
    IsOutermost covered (step :: way) ↔ IsOutermost (behind [step] covered) way := by
  unfold IsOutermost
  rw [clearAbove_cons_iff]
  exact ⟨fun ⟨hway, _, hclear⟩ => ⟨hway, hclear⟩, fun ⟨hway, hclear⟩ => ⟨hway, hroot, hclear⟩⟩

theorem isOpen_cons (hroot : covered [] = false) (hopen : IsOpen (behind [step] covered) way) :
    IsOpen covered (step :: way) := by
  intro before hbefore
  rcases List.prefix_cons_iff.mp hbefore with rfl | ⟨rest, rfl, hrest⟩
  · exact hroot
  · exact hopen rest hrest

theorem isOutermost_nil_iff : IsOutermost covered [] ↔ covered [] = true :=
  ⟨And.left, fun hroot => ⟨hroot, clearAbove_nil⟩⟩

namespace AgreeInOpen

theorem root_eq (hagree : AgreeInOpen first second value other) : second [] = first [] := by
  rw [Bool.eq_iff_iff, ← isOutermost_nil_iff, ← isOutermost_nil_iff]
  exact (hagree.outermost_iff []).symm

theorem behind (hagree : AgreeInOpen first second value other) (hroot : first [] = false)
    (hchild : value.child? step = some child) (hchildOther : other.child? step = some childOther) :
    AgreeInOpen (behind [step] first) (behind [step] second) child childOther := by
  refine ⟨fun way => ?_, fun way hopen => ?_⟩
  · rw [← isOutermost_cons_iff hroot, ← isOutermost_cons_iff (hagree.root_eq.trans hroot)]
    exact hagree.outermost_iff (step :: way)
  · have hsame := hagree.sameShape (step :: way) (isOpen_cons hroot hopen)
    rwa [Json.at?_cons, Json.at?_cons, hchild, hchildOther] at hsame

end AgreeInOpen

/-- Values that are alike but for what is covered are covered to the same. -/
theorem cover_eq_cover (hkeys : value.KeysDistinct) (hkeysOther : other.KeysDistinct)
    (hagree : AgreeInOpen first second value other) :
    cover first value = cover second other := by
  induction value using Json.children_induction generalizing first second other with
  | node value ih =>
      cases hroot : first [] with
      | true =>
          rw [cover_of_covered hroot, cover_of_covered (hagree.root_eq.trans hroot)]
      | false =>
          rw [cover_of_clear hroot, cover_of_clear (hagree.root_eq.trans hroot)]
          have hopen : IsOpen first [] := by
            intro before hbefore
            rwa [List.prefix_nil.mp hbefore]
          have hshape : Json.SameShape value other := by
            have hsame := hagree.sameShape [] hopen
            rw [Json.at?_nil, Json.at?_nil] at hsame
            cases hsame with
            | some hsame => exact hsame
          refine Json.mapChildren_eq_of_sameShape hkeys hkeysOther hshape ?_
          intro step child childOther hchild hchildOther
          have hmem : (step, child) ∈ value.children := (Json.mem_children_iff hkeys).mpr hchild
          exact ih (step, child) hmem (Json.keysDistinct_of_child? hkeys hchild)
            (Json.keysDistinct_of_child? hkeysOther hchildOther)
            (hagree.behind hroot hchild hchildOther)

/-- Where two values have the same cover they are alike. -/
theorem AgreeInOpen.of_cover_eq (hcover : cover covered value = cover covered other) :
    AgreeInOpen covered covered value other := by
  refine ⟨fun _ => Iff.rfl, fun way hopen => ?_⟩
  have hvalue : Option.Rel Json.SameShape (value.at? way) ((cover covered value).at? way) :=
    sameShape_at?_cover hopen
  have hother : Option.Rel Json.SameShape (other.at? way) ((cover covered other).at? way) :=
    sameShape_at?_cover hopen
  rw [hcover] at hvalue
  generalize (cover covered other).at? way = found at hvalue hother
  generalize value.at? way = inner at hvalue ⊢
  generalize other.at? way = innerOther at hother ⊢
  cases hvalue with
  | none => cases hother; exact .none
  | some hshape =>
      cases hother with
      | some hshapeOther => exact .some (hshape.trans hshapeOther.symm)

/-! ## Covering inside one field -/

/-- Changing one field by a cover is covering inside that field. -/
theorem object_set_cover {fields : Table Json} {name : Text} {inner : Json}
    (hnodup : (Table.names fields).Nodup) (hfield : Table.get? fields name = some inner)
    (hinside : ∀ way, covered way = true → ∃ rest, way = .key name :: rest) :
    .object (Table.set fields name (cover (behind [.key name] covered) inner)) =
      cover covered (.object fields) := by
  have hroot : covered [] = false := by
    refine Bool.eq_false_iff.mpr fun hcovered => ?_
    obtain ⟨rest, hrest⟩ := hinside [] hcovered
    cases hrest
  rw [set_eq_map hnodup hfield, cover_of_clear hroot, Json.mapChildren, Json.object.injEq]
  refine List.map_congr_left fun field hmem => Prod.ext rfl ?_
  by_cases hname : field.1 = name
  · have hown : Table.get? fields field.1 = some field.2 :=
      (Table.get?_eq_some_iff_mem hnodup).mpr hmem
    rw [hname, hfield] at hown
    rw [if_pos hname, hname, Option.some.inj hown]
  · rw [if_neg hname]
    refine (cover_eq_self (fun further => Bool.eq_false_iff.mpr fun hcovered => ?_) field.2).symm
    obtain ⟨rest, hrest⟩ := hinside _ hcovered
    exact hname (Step.key.inj (List.cons.inj hrest).1)

end Redaction

/-! ## Hidden headers -/

namespace Outcome

open Redaction

variable {pattern : Option Pattern} {headers : List (Text × Text)}

/-- Where the values of the hidden headers of a list stand in the list. -/
def hiddenValues (pattern : Option Pattern) (headers : List (Text × Text)) (way : Location) :
    Bool :=
  headers.zipIdx.any fun (header, index) =>
    isHidden pattern header.1 && decide (way = [.index index, .index 1])

theorem hiddenValues_eq_true_iff {way : Location} :
    hiddenValues pattern headers way = true ↔ ∃ index header, headers[index]? = some header ∧
      isHidden pattern header.1 = true ∧ way = [.index index, .index 1] := by
  simp only [hiddenValues, List.any_eq_true, Prod.exists, Bool.and_eq_true, decide_eq_true_eq,
    List.mem_zipIdx_iff_getElem?]
  grind

theorem mapM_eq_mapIdx {Cause α β : Type} {change : α → Except Cause β} {items : List α}
    {become : Nat → α → β}
    (hchange : ∀ index item, items[index]? = some item → change item = .ok (become index item)) :
    items.mapM change = .ok (items.mapIdx become) := by
  induction items generalizing become with
  | nil => rfl
  | cons item rest ih =>
      have hrest : rest.mapM change = .ok (rest.mapIdx fun index => become (index + 1)) :=
        ih fun index other hother => hchange (index + 1) other hother
      rw [List.mapM_cons, hchange 0 item rfl, hrest, List.mapIdx_cons]
      rfl

theorem hiddenValues_value {index : Nat} {header : Text × Text}
    (hheader : headers[index]? = some header) :
    hiddenValues pattern headers [.index index, .index 1] = isHidden pattern header.1 := by
  rw [Bool.eq_iff_iff, hiddenValues_eq_true_iff]
  constructor
  · rintro ⟨other, found, hfound, hhidden, hway⟩
    obtain rfl : index = other := Step.index.inj (List.cons.inj hway).1
    rwa [Option.some.inj (hheader.symm.trans hfound)]
  · exact fun hhidden => ⟨index, header, hheader, hhidden, rfl⟩

theorem hidePair_eq_cover {index : Nat} {header : Text × Text}
    (hheader : headers[index]? = some header) :
    hidePair pattern (.list [.str header.1, .str header.2]) =
      .ok (cover (behind [.index index] (hiddenValues pattern headers))
        (.list [.str header.1, .str header.2])) := by
  have hother (rest : Location) (hrest : rest ≠ [.index 1]) :
      behind [.index index] (hiddenValues pattern headers) rest = false := by
    refine Bool.eq_false_iff.mpr fun hcovered => hrest ?_
    obtain ⟨_, _, _, _, hway⟩ := hiddenValues_eq_true_iff.mp hcovered
    exact (List.cons.inj hway).2
  have hname : cover (behind [.index 0] (behind [.index index] (hiddenValues pattern headers)))
      (.str header.1) = .str header.1 := by
    have hroot : behind [.index 0] (behind [.index index] (hiddenValues pattern headers)) [] =
        false := hother [.index 0] (by simp)
    exact cover_of_clear hroot _
  have hvalue : cover (behind [.index 1] (behind [.index index] (hiddenValues pattern headers)))
      (.str header.2) = if isHidden pattern header.1 then .str mark else .str header.2 := by
    have hroot : behind [.index 1] (behind [.index index] (hiddenValues pattern headers)) [] =
        isHidden pattern header.1 := hiddenValues_value hheader
    cases hhidden : isHidden pattern header.1 with
    | true => exact cover_of_covered (hroot.trans hhidden) _
    | false => exact cover_of_clear (hroot.trans hhidden) _
  rw [cover_of_clear (hother [] (by simp)), Json.mapChildren]
  simp only [List.mapIdx_cons, List.mapIdx_nil, Nat.zero_add, hname, hvalue]
  rfl

/-- Hiding headers covers the values of those that are hidden. -/
theorem hideHeaders_headersJson (pattern : Option Pattern) (headers : List (Text × Text)) :
    hideHeaders pattern (headersJson headers) =
      .ok (cover (hiddenValues pattern headers) (headersJson headers)) := by
  have hroot : hiddenValues pattern headers [] = false := by
    refine Bool.eq_false_iff.mpr fun hcovered => ?_
    obtain ⟨_, _, _, _, hway⟩ := hiddenValues_eq_true_iff.mp hcovered
    cases hway
  rw [cover_of_clear hroot, headersJson, Json.mapChildren, hideHeaders, mapM_eq_mapIdx]
  · rfl
  · intro index pair hpair
    rw [List.getElem?_map] at hpair
    obtain ⟨header, hheader, rfl⟩ := Option.map_eq_some_iff.mp hpair
    exact hidePair_eq_cover hheader

/-! ## The reported copy is a cover -/

/-- The location of the headers of the response. -/
def headersWay : Location := [.key "response", .key "headers"]

/-- Where the values of the hidden headers of an outcome stand in it. -/
def hiddenPlaces (pattern : Option Pattern) (headers : List (Text × Text)) (way : Location) :
    Bool :=
  headersWay.isPrefixOf way && hiddenValues pattern headers (way.drop headersWay.length)

/-- The places of an outcome that hold a mark in the reported copy: what the ignored paths select,
and the values of hidden headers of the response. -/
def covered (outcome : Outcome) (directives : Directives) (way : Location) : Bool :=
  selected directives.ignoredPaths outcome.toJson way ||
    hiddenPlaces ((directives.text? "ignoreHeaders").bind pattern?) outcome.responseHeaders way

/-- The ignored paths lead some steps down, and what they select of an outcome is neither its
response headers nor above or inside them. -/
structure SparesHeaders (outcome : Outcome) (directives : Directives) : Prop where
  leadsDown : ∀ path ∈ directives.ignoredPaths, LeadsDown path
  apart : ∀ way, selected directives.ignoredPaths outcome.toJson way = true →
    ¬ way <+: headersWay ∧ ¬ headersWay <+: way

theorem behind_hiddenPlaces (pattern : Option Pattern) (headers : List (Text × Text)) :
    behind [.key "headers"] (behind [.key "response"] (hiddenPlaces pattern headers)) =
      hiddenValues pattern headers := by
  funext way
  simp [behind, hiddenPlaces, headersWay]

theorem exists_of_hiddenPlaces {way : Location}
    (hhidden : hiddenPlaces pattern headers way = true) :
    ∃ rest, way = .key "response" :: .key "headers" :: rest := by
  obtain ⟨rest, hrest⟩ := List.isPrefixOf_iff_prefix.mp (Bool.and_eq_true_iff.mp hhidden).1
  exact ⟨rest, hrest.symm⟩

/-- Hiding the headers of a response covers their values. -/
theorem hideResponse_eq_cover {fields : Table Json} (hnodup : (Table.names fields).Nodup)
    (hheaders : Table.get? fields "headers" = some (headersJson headers)) :
    hideResponse pattern (.object fields) =
      .ok (cover (behind [.key "response"] (hiddenPlaces pattern headers)) (.object fields)) := by
  have hinside (way : Location)
      (hway : behind [.key "response"] (hiddenPlaces pattern headers) way = true) :
      ∃ rest, way = .key "headers" :: rest := by
    obtain ⟨rest, hrest⟩ := exists_of_hiddenPlaces hway
    exact ⟨rest, (List.cons.inj hrest).2⟩
  rw [← object_set_cover hnodup hheaders hinside, behind_hiddenPlaces, hideResponse, hheaders]
  dsimp only
  rw [hideHeaders_headersJson]
  rfl

theorem exists_fields_of_at? {data headers : Json} (hat : data.at? headersWay = some headers) :
    ∃ fields response, data = .object fields ∧
      Table.get? fields "response" = some (.object response) ∧
      Table.get? response "headers" = some headers := by
  obtain ⟨response, hresponse, hrest⟩ := Option.bind_eq_some_iff.mp hat
  rw [Json.at?_singleton] at hrest
  cases data with
  | object fields =>
      cases response with
      | object inner => exact ⟨fields, inner, rfl, hresponse, hrest⟩
      | _ => cases hrest
  | _ => cases hresponse

/-- The reported copy of redacted fields that hold a response: the headers of it are hidden. -/
theorem redacted_eq_of_redact {outcome : Outcome} {directives : Directives} {fields : Table Json}
    {response : Json}
    (hredact : redact (.str mark) directives.ignoredPaths outcome.toJson = .ok (.object fields))
    (hresponse : Table.get? fields "response" = some response) :
    outcome.redacted directives =
      (hideResponse ((directives.text? "ignoreHeaders").bind pattern?) response).map fun hidden =>
        .object (Table.set fields "response" hidden) := by
  rw [redacted, hredact]
  simp only [Except.mapError, bind, Except.bind, hresponse]
  rfl

/-- The reported copy is the outcome with a mark in every covered place. -/
theorem redacted_eq_cover {outcome : Outcome} {directives : Directives}
    (hkeys : outcome.toJson.KeysDistinct) (hspares : outcome.SparesHeaders directives) :
    outcome.redacted directives = .ok (cover (outcome.covered directives) outcome.toJson) := by
  -- the redaction leaves the headers where they are and as they are
  have hdata := keysDistinct_cover hkeys (selected directives.ignoredPaths outcome.toJson)
  have hat : (cover (selected directives.ignoredPaths outcome.toJson) outcome.toJson).at?
      headersWay = some (headersJson outcome.responseHeaders) :=
    (at?_cover_of_apart hspares.apart).trans rfl
  have hcovered : cover (outcome.covered directives) outcome.toJson =
      cover (hiddenPlaces ((directives.text? "ignoreHeaders").bind pattern?)
        outcome.responseHeaders)
        (cover (selected directives.ignoredPaths outcome.toJson) outcome.toJson) := by
    rw [cover_cover]
    exact cover_congr (fun _ _ => Bool.or_comm _ _) _
  have hredact := redact_eq_cover hkeys hspares.leadsDown
  rw [hcovered]
  generalize cover (selected directives.ignoredPaths outcome.toJson) outcome.toJson = data at *
  obtain ⟨fields, response, rfl, hresponse, hheaders⟩ := exists_fields_of_at? hat
  have hchild : (Json.object fields).child? (.key "response") = some (.object response) := hresponse
  have hresponseKeys : (Json.object response).KeysDistinct :=
    Json.keysDistinct_of_child? hdata hchild
  rw [Json.KeysDistinct] at hdata hresponseKeys
  rw [← object_set_cover hdata.1 hresponse fun way hway =>
    (exists_of_hiddenPlaces hway).imp' _ fun _ hrest => hrest]
  rw [redacted_eq_of_redact hredact hresponse, hideResponse_eq_cover hresponseKeys.1 hheaders]
  rfl

theorem isSome_at?_of_covered {outcome : Outcome} {directives : Directives}
    (hkeys : outcome.toJson.KeysDistinct) {way : Location}
    (hcovered : outcome.covered directives way = true) :
    (outcome.toJson.at? way).isSome = true := by
  rcases Bool.or_eq_true_iff.mp hcovered with hselected | hhidden
  · exact isSome_at?_of_selected hkeys hselected
  · obtain ⟨hway, hvalue⟩ := Bool.and_eq_true_iff.mp hhidden
    obtain ⟨rest, rfl⟩ := List.isPrefixOf_iff_prefix.mp hway
    obtain ⟨index, header, hheader, -, hrest⟩ := hiddenValues_eq_true_iff.mp hvalue
    rw [List.drop_left] at hrest
    have hheaders : outcome.toJson.at? headersWay =
        some (headersJson outcome.responseHeaders) := rfl
    rw [Json.at?_append_of_at? hheaders, hrest, headersJson, Json.at?_cons, Json.child?,
      List.getElem?_map, hheader]
    rfl

/-- What ignored paths select and what hidden headers say does not reach the reported copy.  Two
outcomes that have the same outermost covered places and are alike everywhere else both have a
reported copy, and it is one and the same: it holds a mark in each of these places, and elsewhere it
is what both outcomes are. -/
theorem redacted_eq_redacted {directives : Directives} {first second : Outcome}
    (hfirst : first.toJson.KeysDistinct) (hsecond : second.toJson.KeysDistinct)
    (hspares : first.SparesHeaders directives) (hsparesOther : second.SparesHeaders directives)
    (hagree : AgreeInOpen (first.covered directives) (second.covered directives) first.toJson
      second.toJson) :
    ∃ data, first.redacted directives = .ok data ∧ second.redacted directives = .ok data ∧
      (∀ way, IsOutermost (first.covered directives) way → data.at? way = some (.str mark)) ∧
      ∀ way, IsOpen (first.covered directives) way →
        Option.Rel Json.SameShape (first.toJson.at? way) (data.at? way) := by
  refine ⟨_, redacted_eq_cover hfirst hspares, ?_, fun way hway => ?_,
    fun way hopen => sameShape_at?_cover hopen⟩
  · rw [redacted_eq_cover hsecond hsparesOther, cover_eq_cover hfirst hsecond hagree]
  · exact at?_cover_of_covered hway.2 hway.1 (isSome_at?_of_covered hfirst hway.1)

/-- An ignored value below each item of a list, once a number and once a list, and two hidden
headers. -/
theorem redacted_eq_redacted_varying :
    let directives : Directives :=
      [("ignore", ⟨.paths ["$.response.body[*].id"], false⟩),
        ("ignoreHeaders", ⟨.text "^x-", false⟩)]
    let outcome (id : Json) (date trace : Text) : Outcome :=
      { method := "GET", url := "/", headers := [], body := none, status := 200, statusText := "OK"
        responseHeaders := [("date", date), ("server", "s"), ("x-trace", trace)]
        responseBody := some (.list [.object [("id", id), ("kind", .str "k")], .null])
        elapsed := .signedZero false }
    let first := outcome (.int 1) "Mon" "a"
    let second := outcome (.list [.null]) "Tue" "b"
    AgreeInOpen (first.covered directives) (second.covered directives) first.toJson
        second.toJson ∧
      ∃ data, first.redacted directives = .ok data ∧ second.redacted directives = .ok data ∧
        data.at? [.key "response", .key "body", .index 0, .key "id"] = some (.str mark) := by
  intro directives outcome first second
  have hread : Query.read "$.response.body[*].id" =
      .ok [.key "response", .key "body", .all, .key "id"] := by decide
  have hplaces (id : Json) (date trace : Text) :
      Query.locations [.key "response", .key "body", .all, .key "id"]
        (outcome id date trace).toJson =
          [[.key "response", .key "body", .index 0, .key "id"]] := by rfl
  have hkeys (id : Json) (hid : id.KeysDistinct) (date trace : Text) :
      (outcome id date trace).toJson.KeysDistinct := by
    simp [outcome, toJson, headersJson, Json.KeysDistinct, Json.itemsKeysDistinct,
      Json.fieldsKeysDistinct, hid]
  have hspares (id : Json) (date trace : Text) :
      (outcome id date trace).SparesHeaders directives := by
    refine ⟨fun path hpath => ?_, fun way hway => ?_⟩
    · rw [List.mem_singleton.mp hpath]
      exact ⟨_, hread, by simp, by simp⟩
    · obtain ⟨path, hpath, segments, hsegments, hway⟩ := exists_of_selected hway
      rw [List.mem_singleton.mp hpath] at hsegments
      rw [← Except.ok.inj (hread.symm.trans hsegments), hplaces, List.mem_singleton] at hway
      rw [hway]
      decide
  have hsame : second.covered directives = first.covered directives := rfl
  have hagree : AgreeInOpen (first.covered directives) (second.covered directives) first.toJson
      second.toJson := by
    rw [hsame]
    exact .of_cover_eq rfl
  have hlist : (Json.list [.null]).KeysDistinct := by
    simp [Json.KeysDistinct, Json.itemsKeysDistinct]
  obtain ⟨data, hfirst, hsecond, hmarked, -⟩ := redacted_eq_redacted
    (hkeys (.int 1) trivial "Mon" "a") (hkeys (.list [.null]) hlist "Tue" "b")
    (hspares _ _ _) (hspares _ _ _) hagree
  let way : Location := [.key "response", .key "body", .index 0, .key "id"]
  have hclear : ∀ before ∈ way.inits, before ≠ way → first.covered directives before = false := by
    decide
  exact ⟨hagree, data, hfirst, hsecond, hmarked way
    ⟨rfl, fun before hbefore => hclear before ((List.mem_inits _ _).mpr hbefore)⟩⟩

end Outcome

end HttpScript
