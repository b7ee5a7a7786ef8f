import HttpScript.Proofs.Placeholder.FreeFilling
import HttpScript.Proofs.Placeholder.Termination

/-!
# What the check for cycles changes

Expansion with the check is compared with filling that has no check.  Where filling comes to an end,
expansion gives the same, with one exception.  A path records bare identifiers, but an identifier
can mean a local variable where it is met first and a global one below the value of that variable.
Such an identifier is reported as a cycle although filling would not go on for ever.

The two are followed side by side.  They part where a placeholder of the path is met again.  Were it
read there as it was read before, then filling would enter the same text again and again, but it
came to an end.
-/

namespace HttpScript

/-! ## How the meaning of a placeholder depends on the context -/

namespace Scope

variable {scope : Scope} {identifier value : Text} {isGlobal : Bool}

/-- Whether a placeholder is a local variable where those are seen. -/
def IsLocal (scope : Scope) (identifier : Text) : Prop :=
  isCall identifier = false ∧ scope.outcomePath? identifier = none ∧
    (Table.get? scope.locals identifier).isSome = true

/-- A placeholder that is no local variable leads to the same text in both contexts. -/
theorem lead_eq_or_isLocal (hlead : scope.lead false identifier = .text isGlobal value) :
    scope.lead true identifier = .text isGlobal value ∨ scope.IsLocal identifier := by
  obtain ⟨hcall, hlookup⟩ := lead_eq_text_iff.mp hlead
  rw [lead_eq_text_iff]
  unfold lookup at hlookup ⊢
  split at hlookup
  · exact .inl ⟨hcall, hlookup⟩
  · next hpath =>
      rw [if_neg Bool.false_ne_true] at hlookup
      split at hlookup
      · next declared hget => exact .inr ⟨hcall, hpath, by rw [hget]; rfl⟩
      · exact .inl ⟨hcall, (lookupGlobal_eq_ok hlookup).2 _⟩

end Scope

/-! ## The texts that expansion enters -/

/-- The expansions that are entered when a text is expanded, each through a placeholder with only
passed ones before it. -/
inductive Reached (scope : Scope) (base : Sources) (text : Text) :
    List Text → Bool → Text → Prop
  | start : Reached scope base text [] false text
  | nested {path inGlobal outer before identifier after isGlobal inner}
      (houter : Reached scope base text path inGlobal outer)
      (hsplit : Piece.ofText outer = before ++ .hole identifier :: after)
      (hbefore : ∀ piece ∈ before, Passes scope base inGlobal piece)
      (hfollow : scope.follow path inGlobal identifier = .text isGlobal inner) :
      Reached scope base text (path ++ [identifier]) isGlobal inner

namespace Reached

variable {scope : Scope} {base : Sources} {text outer : Text} {path : List Text} {inGlobal : Bool}

theorem mem_placeholders_of_split {identifier : Text} {before after : List Piece}
    (hsplit : Piece.ofText outer = before ++ .hole identifier :: after) :
    identifier ∈ placeholders outer := by
  apply mem_placeholders
  rw [hsplit]
  exact List.mem_append_right before List.mem_cons_self

theorem visited (hreached : Reached scope base text path inGlobal outer) :
    Visited scope text path inGlobal outer := by
  induction hreached with
  | start => exact .start
  | nested _ hsplit _ hfollow ih => exact ih.nested (mem_placeholders_of_split hsplit) hfollow

theorem ends (hreached : Reached scope base text path inGlobal outer)
    (hends : Ends scope base (false, text)) : Ends scope base (inGlobal, outer) := by
  induction hreached with
  | start => exact hends
  | nested _ hsplit hbefore hfollow ih =>
      exact ih.inv ⟨_, _, _, hsplit, hbefore, (Scope.follow_eq_text hfollow).2⟩

/-- Where a placeholder of the path was met, and how the present text was entered from there. -/
theorem exists_of_mem_path (hreached : Reached scope base text path inGlobal outer)
    {identifier : Text} (hmem : identifier ∈ path) :
    ∃ before between metGlobal met isGlobal inner, path = before ++ identifier :: between ∧
      Reached scope base text before metGlobal met ∧ identifier ∈ placeholders met ∧
      scope.lead metGlobal identifier = .text isGlobal inner ∧
      Enters scope base (metGlobal, met) (isGlobal, inner) ∧
      Relation.ReflTransGen (Enters scope base) (isGlobal, inner) (inGlobal, outer) := by
  induction hreached with
  | start => exact nomatch hmem
  | @nested path inGlobal outer before last after isGlobal inner houter hsplit hbefore hfollow ih =>
      have hlead := (Scope.follow_eq_text hfollow).2
      have henters : Enters scope base (inGlobal, outer) (isGlobal, inner) :=
        ⟨_, _, _, hsplit, hbefore, hlead⟩
      rcases List.mem_append.mp hmem with hmem | hmem
      · obtain ⟨start, between, metGlobal, met, global, first, rfl, hmet, hidentifier, hfirst,
          hentered, hchain⟩ := ih hmem
        refine ⟨start, between ++ [last], metGlobal, met, global, first, ?_, hmet, hidentifier,
          hfirst, hentered, hchain.tail henters⟩
        rw [List.append_assoc]
        rfl
      · obtain rfl := List.mem_singleton.mp hmem
        exact ⟨path, [], inGlobal, outer, isGlobal, inner, rfl, houter,
          mem_placeholders_of_split hsplit, hlead, henters, .refl⟩

end Reached

theorem inGlobal_of_chain {scope : Scope} {base : Sources} {first last : Bool × Text}
    (hchain : Relation.ReflTransGen (Enters scope base) first last) (hfirst : first.1 = true) :
    last.1 = true := by
  induction hchain with
  | refl => exact hfirst
  | tail _ henters ih =>
      obtain ⟨_, _, _, _, _, hlead⟩ := henters
      rw [ih] at hlead
      exact Scope.isGlobal_of_lead hlead

/-- A local variable that is met again below its own value, where local variables are not seen. -/
structure IsReread (scope : Scope) (text : Text) (before : List Text) (identifier : Text)
    (between : List Text) : Prop where
  isLocal : scope.IsLocal identifier
  asLocal : ∃ outer, Visited scope text before false outer ∧ identifier ∈ placeholders outer
  asGlobal : ∃ outer, Visited scope text (before ++ identifier :: between) true outer ∧
    identifier ∈ placeholders outer

/-- Where filling comes to an end, a placeholder that is met again has changed its meaning. -/
theorem Reached.isReread {scope : Scope} {base : Sources} {text outer identifier : Text}
    {path : List Text} {inGlobal : Bool} {passed after : List Piece}
    (hreached : Reached scope base text path inGlobal outer)
    (hends : Ends scope base (false, text))
    (hsplit : Piece.ofText outer = passed ++ .hole identifier :: after)
    (hpassed : ∀ piece ∈ passed, Passes scope base inGlobal piece) (hmem : identifier ∈ path) :
    ∃ before between, path = before ++ identifier :: between ∧
      IsReread scope text before identifier between := by
  obtain ⟨before, between, metGlobal, met, isGlobal, inner, rfl, hmet, hidentifier, hlead,
    hentered, hchain⟩ := hreached.exists_of_mem_path hmem
  -- read as before it would lead back to the text below which it stands
  have hchanged : scope.lead inGlobal identifier ≠ .text isGlobal inner := fun hagain =>
    Ends.not_loop ((hmet.ends hends).inv hentered) hchain
      ⟨passed, identifier, after, hsplit, hpassed, hagain⟩
  refine ⟨before, between, rfl, ?_⟩
  cases metGlobal with
  | true =>
      have hglobal : inGlobal = true := inGlobal_of_chain hchain (Scope.isGlobal_of_lead hlead)
      rw [hglobal] at hchanged
      exact absurd hlead hchanged
  | false =>
      cases inGlobal with
      | false => exact absurd hlead hchanged
      | true =>
          rcases Scope.lead_eq_or_isLocal hlead with hsame | hlocal
          · exact absurd hsame hchanged
          · exact ⟨hlocal, ⟨met, hmet.visited, hidentifier⟩,
              ⟨outer, hreached.visited, Reached.mem_placeholders_of_split hsplit⟩⟩

/-! ## Side by side -/

/-- Pieces that are filled next while a text is expanded: the rest of a text that was entered. -/
def Ahead (scope : Scope) (base : Sources) (text : Text) (path : List Text) (inGlobal : Bool)
    (pieces : List Piece) : Prop :=
  ∃ outer passed, Reached scope base text path inGlobal outer ∧
    Piece.ofText outer = passed ++ pieces ∧ ∀ piece ∈ passed, Passes scope base inGlobal piece

/-- A cycle is reported where a placeholder of the path is met again. -/
def ReportsCycle (scope : Scope) (base : Sources) (text : Text) (result : Except Fault Text) :
    Prop :=
  ∃ path inGlobal identifier rest, Ahead scope base text path inGlobal (.hole identifier :: rest) ∧
    identifier ∈ path ∧ result = .error (.problem (.cycle (path ++ [identifier])))

section Together

variable {scope : Scope} {base : Sources} {text : Text} {path : List Text} {inGlobal : Bool}
  {rest : List Piece} {sources after : Sources} {result : Except Fault Text}

theorem Ahead.start : Ahead scope base text [] false (Piece.ofText text) :=
  ⟨text, [], .start, rfl, nofun⟩

theorem Ahead.tail {piece : Piece} (hahead : Ahead scope base text path inGlobal (piece :: rest))
    (hpiece : Passes scope base inGlobal piece) : Ahead scope base text path inGlobal rest := by
  obtain ⟨outer, passed, hreached, hsplit, hpassed⟩ := hahead
  refine ⟨outer, passed ++ [piece], hreached, hsplit.trans (List.append_cons passed piece rest),
    fun other hother => ?_⟩
  rcases List.mem_append.mp hother with hother | hother
  · exact hpassed other hother
  · rwa [List.mem_singleton.mp hother]

theorem Ahead.inside {identifier inner : Text} {isGlobal : Bool}
    (hahead : Ahead scope base text path inGlobal (.hole identifier :: rest))
    (hfollow : scope.follow path inGlobal identifier = .text isGlobal inner) :
    Ahead scope base text (path ++ [identifier]) isGlobal (Piece.ofText inner) := by
  obtain ⟨outer, passed, hreached, hsplit, hpassed⟩ := hahead
  exact ⟨inner, [], hreached.nested hsplit hpassed hfollow, rfl, nofun⟩

theorem ReportsCycle.map (hreports : ReportsCycle scope base text result) (f : Text → Text) :
    ReportsCycle scope base text (result.map f) := by
  obtain ⟨path, inGlobal, identifier, rest, hahead, hmem, rfl⟩ := hreports
  exact ⟨path, inGlobal, identifier, rest, hahead, hmem, rfl⟩

theorem not_reportsCycle_ok {value : Text} : ¬ReportsCycle scope base text (.ok value) := by
  rintro ⟨_, _, _, _, _, _, hresult⟩
  exact nomatch hresult

/-- Unless a cycle is reported right here, the check changes nothing. -/
theorem reportsCycle_or_follow_eq {identifier : Text}
    (hahead : Ahead scope base text path inGlobal (.hole identifier :: rest))
    (hchecked : Fills scope.follow path inGlobal (.hole identifier :: rest) sources result after) :
    ReportsCycle scope base text result ∨
      scope.follow path inGlobal identifier = scope.lead inGlobal identifier := by
  rcases Scope.follow_eq path inGlobal identifier with hsame | ⟨hmem, hcycle⟩
  · exact .inr hsame
  · refine .inl ⟨path, inGlobal, identifier, rest, hahead, hmem, ?_⟩
    rcases hchecked.of_done hcycle with ⟨value, between, restResult, hfound, -, -⟩ |
      ⟨fault, hfound, rfl⟩
    · exact nomatch (Prod.mk.inj hfound).1
    · exact (Prod.mk.inj hfound).1.symm

/-- Filling with the check gives what filling without it gives, or it reports a cycle. -/
theorem eq_or_reportsCycle {freePath : List Text} {pieces : List Piece} {checkedAfter : Sources}
    {checkedResult : Except Fault Text}
    (hfree : FillsFreely scope freePath inGlobal pieces sources result after)
    (hmatch : Sources.Match base sources)
    (hchecked : Fills scope.follow path inGlobal pieces sources checkedResult checkedAfter)
    (hahead : Ahead scope base text path inGlobal pieces) :
    (checkedResult = result ∧ checkedAfter = after) ∨
      ReportsCycle scope base text checkedResult := by
  induction hfree generalizing path checkedAfter checkedResult with
  | nil => cases hchecked; exact .inl ⟨rfl, rfl⟩
  | plain _ _ ih =>
      cases hchecked with
      | plain _ hrest =>
          rcases ih hmatch hrest (hahead.tail trivial) with ⟨rfl, rfl⟩ | hreports
          · exact .inl ⟨rfl, rfl⟩
          · exact .inr (hreports.map _)
  | done hlead hfound _ ih =>
      rcases reportsCycle_or_follow_eq hahead hchecked with hreports | hsame
      · exact .inr hreports
      rcases hchecked.of_done (hsame.trans hlead) with
        ⟨value, between, restResult, hotherFound, hrest, rfl⟩ | ⟨fault, hotherFound, rfl⟩
      · obtain ⟨heq, rfl⟩ := Prod.mk.inj (hfound.symm.trans hotherFound)
        obtain rfl := Except.ok.inj heq
        have hbetween := (IsEven.of_lead hlead).match_of_outcome hmatch hfound
        have hpasses := passes_of_outcome hmatch hlead hfound
        rcases ih hbetween hrest (hahead.tail hpasses) with ⟨rfl, rfl⟩ | hreports
        · exact .inl ⟨rfl, rfl⟩
        · exact .inr (hreports.map _)
      · exact nomatch (Prod.mk.inj (hfound.symm.trans hotherFound)).1
  | doneFails hlead hfound =>
      rcases reportsCycle_or_follow_eq hahead hchecked with hreports | hsame
      · exact .inr hreports
      rcases hchecked.of_done (hsame.trans hlead) with
        ⟨value, between, restResult, hotherFound, hrest, rfl⟩ | ⟨fault, hotherFound, rfl⟩
      · exact nomatch (Prod.mk.inj (hfound.symm.trans hotherFound)).1
      · obtain ⟨heq, rfl⟩ := Prod.mk.inj (hfound.symm.trans hotherFound)
        exact .inl ⟨heq.symm, rfl⟩
  | text hlead hinner _ ihInner ih =>
      rcases reportsCycle_or_follow_eq hahead hchecked with hreports | hsame
      · exact .inr hreports
      have hfollow := hsame.trans hlead
      -- the text below is compared first; if a cycle is reported there, it is reported here
      rcases hchecked.of_text hfollow with
        ⟨value, between, restResult, hotherInner, hrest, rfl⟩ | ⟨fault, hotherInner, rfl⟩
      · rcases ihInner hmatch hotherInner (hahead.inside hfollow) with ⟨heq, rfl⟩ | hreports
        · obtain rfl := Except.ok.inj heq
          have hpasses := (passes_of_text hlead).mpr ⟨_, _, _, _, hmatch, hinner⟩
          have hbetween := FillsFreely.match_after hinner hmatch
          rcases ih hbetween hrest (hahead.tail hpasses) with ⟨rfl, rfl⟩ | hreports
          · exact .inl ⟨rfl, rfl⟩
          · exact .inr (hreports.map _)
        · exact absurd hreports not_reportsCycle_ok
      · rcases ihInner hmatch hotherInner (hahead.inside hfollow) with ⟨heq, -⟩ | hreports
        · exact nomatch heq
        · exact .inr hreports
  | textFails hlead hinner ihInner =>
      rcases reportsCycle_or_follow_eq hahead hchecked with hreports | hsame
      · exact .inr hreports
      have hfollow := hsame.trans hlead
      rcases hchecked.of_text hfollow with
        ⟨value, between, restResult, hotherInner, hrest, rfl⟩ | ⟨fault, hotherInner, rfl⟩
      · rcases ihInner hmatch hotherInner (hahead.inside hfollow) with ⟨heq, -⟩ | hreports
        · exact nomatch heq
        · exact absurd hreports not_reportsCycle_ok
      · rcases ihInner hmatch hotherInner (hahead.inside hfollow) with ⟨heq, rfl⟩ | hreports
        · exact .inl ⟨heq, rfl⟩
        · exact .inr hreports

end Together

/-- Where filling without a check comes to an end, expansion gives the same, which is not the report
of a cycle, unless a local variable is met again below its own value in a text that sees no local
variables; then expansion reports a cycle. -/
theorem expand_eq_or_isReread {scope : Scope} {text : Text} {sources after : Sources}
    {result : Except Fault Text}
    (hfills : FillsFreely scope [] false (Piece.ofText text) sources result after) :
    ((expand scope text).outcome sources = (result, after) ∧ NoCycle result) ∨
      ∃ before identifier between, IsReread scope text before identifier between ∧
        ((expand scope text).outcome sources).1 =
          .error (.problem (.cycle (before ++ identifier :: between ++ [identifier]))) := by
  have hends := (FillsFreely.leadToEnds hfills (.refl sources)).ends
  rcases eq_or_reportsCycle hfills (.refl sources) (fills_expand scope text sources) .start with
    ⟨hresult, hafter⟩ | ⟨path, inGlobal, identifier, rest, hahead, hmem, hresult⟩
  · exact .inl ⟨Prod.ext hresult hafter, FillsFreely.noCycle hfills⟩
  · obtain ⟨outer, passed, hreached, hsplit, hpassed⟩ := hahead
    obtain ⟨before, between, rfl, hreread⟩ := hreached.isReread hends hsplit hpassed hmem
    exact .inr ⟨before, identifier, between, hreread, hresult⟩

/-! ## A shadowed variable -/

/-- A local variable that leads to the global variable of its name, by way of another one. -/
def shadowed : Scope where
  env := []
  globals := [("g", ⟨some "\x7b\x7bx\x7d\x7d", true⟩), ("x", ⟨some "1", true⟩)]
  locals := [("x", ⟨some "\x7b\x7bg\x7d\x7d", false⟩)]
  outcomes := []

private theorem fills_hole {lead : List Text → Bool → Text → Lead} {path : List Text}
    {inGlobal isGlobal : Bool} {identifier inner value : Text} {sources after : Sources}
    (hlead : lead path inGlobal identifier = .text isGlobal inner)
    (hinner : Fills lead (path ++ [identifier]) isGlobal (Piece.ofText inner) sources (.ok value)
      after) :
    Fills lead path inGlobal [.plain [], .hole identifier, .plain []] sources (.ok value)
      after := by
  have hfills := Fills.plain [] (Fills.text hlead hinner (.plain [] .nil))
  simpa [Except.map] using hfills

private theorem fills_shadowed (sources : Sources) :
    FillsFreely shadowed [] false (Piece.ofText "\x7b\x7bx\x7d\x7d") sources (.ok "1") sources := by
  have hvalue : FillsFreely shadowed ["x", "g", "x"] true (Piece.ofText "1") sources (.ok "1")
      sources := .plain "1" .nil
  exact fills_hole rfl (fills_hole rfl (fills_hole rfl hvalue))

private theorem expand_shadowed : ((expand shadowed "\x7b\x7bx\x7d\x7d").outcome .sample).1 =
    .error (.problem (.cycle ["x", "g", "x"])) := rfl

/-- The check is not without effect where filling comes to an end. -/
theorem expand_ne_of_shadowed :
    FillsFreely shadowed [] false (Piece.ofText "\x7b\x7bx\x7d\x7d") .sample (.ok "1") .sample ∧
      (expand shadowed "\x7b\x7bx\x7d\x7d").outcome .sample ≠ (.ok "1", .sample) := by
  refine ⟨fills_shadowed .sample, fun heq => ?_⟩
  have hresult := expand_shadowed
  rw [heq] at hresult
  exact nomatch hresult

theorem expand_eq_or_isReread_shadowed :
    FillsFreely shadowed [] false (Piece.ofText "\x7b\x7bx\x7d\x7d") .sample (.ok "1") .sample ∧
      ∃ before identifier between,
        IsReread shadowed "\x7b\x7bx\x7d\x7d" before identifier between := by
  refine ⟨fills_shadowed .sample, ?_⟩
  rcases expand_eq_or_isReread (fills_shadowed .sample) with ⟨heq, -⟩ | ⟨before, identifier, between,
    hreread, -⟩
  · have hresult := expand_shadowed
    rw [heq] at hresult
    exact nomatch hresult
  · exact ⟨before, identifier, between, hreread⟩

end HttpScript
