import HttpScript.Run.Outcome

/-!
# What a redaction fails with

Where nothing is ignored nothing can go wrong.  Otherwise a path may be no query, or a way may lead
nowhere because of what was replaced before: the way goes on inside a replaced value, or the headers
of the response, whose values are hidden at the end, are not in their place any more.
-/

namespace HttpScript

theorem except_bind_eq_error {Cause α β : Type} {result : Except Cause α}
    {next : α → Except Cause β} {cause : Cause} (hbind : (result >>= next) = .error cause) :
    result = .error cause ∨ ∃ value, result = .ok value ∧ next value = .error cause := by
  cases result with
  | error other => exact .inl (congrArg Except.error (Except.error.inj hbind))
  | ok value => exact .inr ⟨value, rfl, hbind⟩

theorem exists_of_mapM_eq_error {Cause α β : Type} {change : α → Except Cause β} {items : List α}
    {cause : Cause} (hmap : items.mapM change = .error cause) :
    ∃ item ∈ items, change item = .error cause := by
  induction items with
  | nil => exact nomatch hmap
  | cons item rest ih =>
      rw [List.mapM_cons] at hmap
      rcases except_bind_eq_error hmap with hitem | ⟨value, -, hrest⟩
      · exact ⟨item, List.mem_cons_self, hitem⟩
      · rcases except_bind_eq_error hrest with hrest | ⟨values, -, hvalues⟩
        · obtain ⟨other, hother, hfault⟩ := ih hrest
          exact ⟨other, List.mem_cons_of_mem item hother, hfault⟩
        · exact nomatch hvalues

namespace Redaction

/-! ## Ways that lead nowhere -/

/-- A way leads where nothing can be replaced. -/
def Fault.IsAstray : Fault → Prop
  | .noWayIn | .noSuchKey | .noSuchPosition => True
  | .badPath _ _ | .endless => False

variable {fault : Fault}

theorem isAstray_or_of_replaceItem {change : Json → Except Fault Json} {position : Nat}
    {items : List Json} (hreplace : replaceItem change position items = .error fault) :
    fault.IsAstray ∨ ∃ item, change item = .error fault := by
  induction items generalizing position with
  | nil =>
      cases position <;> exact .inl (Except.error.inj hreplace ▸ trivial)
  | cons item rest ih =>
      cases position with
      | zero =>
          rcases except_bind_eq_error hreplace with hitem | ⟨value, -, hvalue⟩
          · exact .inr ⟨item, hitem⟩
          · exact nomatch hvalue
      | succ position =>
          rcases except_bind_eq_error hreplace with hrest | ⟨value, -, hvalue⟩
          · exact ih hrest
          · exact nomatch hvalue

theorem isAstray_or_of_replaceField {change : Json → Except Fault Json} {name : Text}
    {fields : List (Text × Json)} (hreplace : replaceField change name fields = .error fault) :
    fault.IsAstray ∨ ∃ value, change value = .error fault := by
  induction fields with
  | nil => exact .inl (Except.error.inj hreplace ▸ trivial)
  | cons field rest ih =>
      obtain ⟨key, value⟩ := field
      rw [replaceField] at hreplace
      split at hreplace
      · rcases except_bind_eq_error hreplace with hvalue | ⟨changed, -, hchanged⟩
        · exact .inr ⟨value, hvalue⟩
        · exact nomatch hchanged
      · rcases except_bind_eq_error hreplace with hrest | ⟨changed, -, hchanged⟩
        · exact ih hrest
        · exact nomatch hchanged

theorem isAstray_insideText (length : Nat) (way : Location) : (insideText length way).IsAstray := by
  fun_induction insideText length way with
  | case1 _ _ _ _ _ ih => exact ih
  | case2 => trivial
  | case3 => trivial

theorem isAstray_of_replaceAt {placeholder value : Json} {way : Location}
    (hreplace : replaceAt placeholder way value = .error fault) : fault.IsAstray := by
  induction way generalizing value with
  | nil => exact nomatch hreplace
  | cons step rest ih =>
      unfold replaceAt at hreplace
      split at hreplace
      · exact nomatch hreplace
      · exact nomatch hreplace
      · next hway =>
          obtain ⟨rfl, rfl⟩ := List.cons.inj hway
          rcases except_bind_eq_error hreplace with hfield | ⟨fields, -, hfields⟩
          · rcases isAstray_or_of_replaceField hfield with hastray | ⟨value, hvalue⟩
            · exact hastray
            · exact ih hvalue
          · exact nomatch hfields
      · rcases except_bind_eq_error hreplace with hitem | ⟨items, -, hitems⟩
        · rcases isAstray_or_of_replaceItem hitem with hastray | ⟨value, hvalue⟩
          · exact hastray
          · exact nomatch hvalue
        · exact nomatch hitems
      · next hway =>
          obtain ⟨rfl, rfl⟩ := List.cons.inj hway
          rcases except_bind_eq_error hreplace with hitem | ⟨items, -, hitems⟩
          · rcases isAstray_or_of_replaceItem hitem with hastray | ⟨value, hvalue⟩
            · exact hastray
            · exact ih hvalue
          · exact nomatch hitems
      · exact Except.error.inj hreplace ▸ trivial
      · exact Except.error.inj hreplace ▸ trivial
      · exact Except.error.inj hreplace ▸ isAstray_insideText _ _
      · exact Except.error.inj hreplace ▸ trivial

theorem isAstray_of_replaceAll {placeholder value : Json} {ways : List Location}
    (hreplace : replaceAll placeholder ways value = .error fault) : fault.IsAstray := by
  induction ways generalizing value with
  | nil => exact nomatch hreplace
  | cons way rest ih =>
      rcases except_bind_eq_error hreplace with hway | ⟨replaced, -, hrest⟩
      · exact isAstray_of_replaceAt hway
      · exact ih hrest

/-- A redaction fails if a path is no query or a way leads nowhere. -/
theorem redact_eq_error {placeholder value : Json} {paths : List Text}
    (hredact : redact placeholder paths value = .error fault) :
    (∃ path ∈ paths, ∃ reason, Query.read path = .error reason ∧ fault = .badPath path reason) ∨
      paths ≠ [] ∧ fault.IsAstray := by
  induction paths generalizing value with
  | nil => exact nomatch hredact
  | cons path rest ih =>
      rcases except_bind_eq_error hredact with hpath | ⟨segments, -, hrest⟩
      · cases hread : Query.read path with
        | ok segments =>
            rw [hread] at hpath
            exact nomatch hpath
        | error reason =>
            rw [hread] at hpath
            exact .inl ⟨path, List.mem_cons_self, reason, hread, (Except.error.inj hpath).symm⟩
      · rcases except_bind_eq_error hrest with hselected | ⟨replaced, -, hothers⟩
        · exact .inr ⟨List.cons_ne_nil _ _, isAstray_of_replaceAll hselected⟩
        · rcases ih hothers with ⟨other, hother, hfault⟩ | ⟨-, hastray⟩
          · exact .inl ⟨other, List.mem_cons_of_mem path hother, hfault⟩
          · exact .inr ⟨List.cons_ne_nil _ _, hastray⟩

end Redaction

namespace Outcome

/-! ## Headers that are no headers any more -/

variable {pattern : Option Pattern} {fault : Fault}

theorem fault_of_hidePair {pair : Json} (hhide : hidePair pattern pair = .error fault) :
    fault = .breakdown (.redaction .noWayIn) := by
  unfold hidePair at hhide
  split at hhide
  · exact nomatch hhide
  · split at hhide
    · exact (Except.error.inj hhide).symm
    · exact nomatch hhide
  · exact nomatch hhide

theorem fault_of_hideHeaders {headers : Json} (hhide : hideHeaders pattern headers = .error fault) :
    fault = .breakdown (.redaction .noWayIn) := by
  unfold hideHeaders at hhide
  split at hhide
  · rcases except_bind_eq_error hhide with hpairs | ⟨pairs, -, hpairs⟩
    · obtain ⟨pair, -, hpair⟩ := exists_of_mapM_eq_error hpairs
      exact fault_of_hidePair hpair
    · exact nomatch hpairs
  · rcases except_bind_eq_error hhide with hchars | ⟨chars, -, hchars⟩
    · obtain ⟨c, -, hc⟩ := exists_of_mapM_eq_error hchars
      exact fault_of_hidePair hc
    · exact nomatch hchars
  · exact nomatch hhide

theorem fault_of_hideResponse {response : Json}
    (hhide : hideResponse pattern response = .error fault) :
    fault = .breakdown (.redaction .noWayIn) := by
  unfold hideResponse at hhide
  split at hhide
  · split at hhide
    · rcases except_bind_eq_error hhide with hheaders | ⟨headers, -, hheaders⟩
      · exact fault_of_hideHeaders hheaders
      · exact nomatch hheaders
    · exact nomatch hhide
  · exact (Except.error.inj hhide).symm

theorem exists_hideHeaders (pattern : Option Pattern) (headers : List (Text × Text)) :
    ∃ hidden, hideHeaders pattern (headersJson headers) = .ok hidden := by
  cases hhide : hideHeaders pattern (headersJson headers) with
  | ok hidden => exact ⟨hidden, rfl⟩
  | error fault =>
      rcases except_bind_eq_error hhide with hpairs | ⟨pairs, -, hpairs⟩
      · obtain ⟨pair, hpair, hfault⟩ := exists_of_mapM_eq_error hpairs
        obtain ⟨header, -, rfl⟩ := List.mem_map.mp hpair
        exact nomatch hfault
      · exact nomatch hpairs

theorem exists_hideResponse (pattern : Option Pattern) {fields : Table Json}
    {headers : List (Text × Text)}
    (hheaders : Table.get? fields "headers" = some (headersJson headers)) :
    ∃ hidden, hideResponse pattern (.object fields) = .ok hidden := by
  obtain ⟨hidden, hhide⟩ := exists_hideHeaders pattern headers
  refine ⟨.object (Table.set fields "headers" hidden), ?_⟩
  rw [hideResponse, hheaders]
  dsimp only
  rw [hhide]
  rfl

theorem toJson_response (outcome : Outcome) : ∃ fields response,
    outcome.toJson = .object fields ∧ Table.get? fields "response" = some (.object response) ∧
      Table.get? response "headers" = some (headersJson outcome.responseHeaders) :=
  ⟨_, _, rfl, rfl, rfl⟩

theorem redacted_eq_error {outcome : Outcome} {directives : Directives}
    (hredacted : outcome.redacted directives = .error fault) :
    (∃ cause, Redaction.redact (.str Redaction.mark) directives.ignoredPaths outcome.toJson =
        .error cause ∧ fault = Fault.ofRedaction cause) ∨
      ∃ fields response pattern,
        Redaction.redact (.str Redaction.mark) directives.ignoredPaths outcome.toJson =
          .ok (.object fields) ∧
        Table.get? fields "response" = some response ∧
        hideResponse pattern response = .error fault := by
  cases hredact :
      Redaction.redact (.str Redaction.mark) directives.ignoredPaths outcome.toJson with
  | error cause =>
      rw [redacted, hredact] at hredacted
      exact .inl ⟨cause, rfl, (Except.error.inj hredacted).symm⟩
  | ok data =>
      rw [redacted, hredact] at hredacted
      rcases except_bind_eq_error hredacted with hdata | ⟨same, hsame, hhide⟩
      · exact nomatch hdata
      · obtain rfl := Except.ok.inj hsame
        dsimp only at hhide
        split at hhide
        · next fields =>
            split at hhide
            · next response hresponse =>
                rcases except_bind_eq_error hhide with hfault | ⟨hidden, -, hhidden⟩
                · exact .inr ⟨fields, response, _, rfl, hresponse, hfault⟩
                · exact nomatch hhidden
            · exact nomatch hhide
        · exact nomatch hhide

/-- Where nothing is ignored the headers are found and nothing fails. -/
theorem exists_redacted (outcome : Outcome) {directives : Directives}
    (hpaths : directives.ignoredPaths = []) :
    ∃ data, outcome.redacted directives = .ok data := by
  cases hredacted : outcome.redacted directives with
  | ok data => exact ⟨data, rfl⟩
  | error fault =>
      obtain ⟨fields, response, hjson, hresponse, hheaders⟩ := outcome.toJson_response
      rcases redacted_eq_error hredacted with ⟨cause, hredact, -⟩ |
        ⟨others, other, pattern, hredact, hother, hhide⟩
      · rw [hpaths] at hredact
        exact nomatch hredact
      · -- the fields are those of the outcome itself, and their headers can be hidden
        rw [hpaths, hjson] at hredact
        obtain rfl := Json.object.inj (Except.ok.inj hredact)
        obtain rfl := Option.some.inj (hresponse.symm.trans hother)
        obtain ⟨hidden, hhidden⟩ := exists_hideResponse pattern hheaders
        exact nomatch hhide.symm.trans hhidden

/-- What the redaction of an outcome fails with. -/
theorem fault_of_redacted {outcome : Outcome} {directives : Directives}
    (hredacted : outcome.redacted directives = .error fault) :
    (∃ path ∈ directives.ignoredPaths, ∃ reason, Query.read path = .error reason ∧
      fault = Fault.ofQuery path reason) ∨
    directives.ignoredPaths ≠ [] ∧ ∃ cause, fault = .breakdown (.redaction cause) := by
  have hpaths : directives.ignoredPaths ≠ [] := by
    intro hnone
    obtain ⟨data, hdata⟩ := outcome.exists_redacted hnone
    exact nomatch hredacted.symm.trans hdata
  rcases redacted_eq_error hredacted with ⟨cause, hredact, rfl⟩ | ⟨_, _, _, -, -, hhide⟩
  · rcases Redaction.redact_eq_error hredact with ⟨path, hmem, reason, hread, rfl⟩ | ⟨-, hastray⟩
    · exact .inl ⟨path, hmem, reason, hread, rfl⟩
    · refine .inr ⟨hpaths, cause, ?_⟩
      cases cause with
      | badPath => exact hastray.elim
      | noWayIn | noSuchKey | noSuchPosition | endless => rfl
  · exact .inr ⟨hpaths, .noWayIn, fault_of_hideResponse hhide⟩

end Outcome

end HttpScript
