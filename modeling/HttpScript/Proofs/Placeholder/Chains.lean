import HttpScript.Proofs.Placeholder.Faults

/-!
# Chains of references

A text refers to what its placeholders are looked up to, and where that is a string it refers to
something in turn.  A chain lists the identifiers on the way from one text to another.  Each of them
is looked up in the context that the one before it leads to, so a chain belongs to a context too.

What expansion reports about references is read off chains:

* the path of a cycle is a chain without repetitions, with one of its identifiers behind it;
* a variable is reported as missing, or as hidden, where a chain leads to its placeholder and
  nothing of its name is seen in the context there.

A chain of the second kind is never passed over in silence: wherever it leads, the text that it
begins with is not filled.
-/

namespace HttpScript

/-! ## From text to text -/

/-- The identifiers by which one text in a context leads to another. -/
inductive Chain (scope : Scope) : Bool → Text → List Text → Bool → Text → Prop
  | nil {inGlobal text} : Chain scope inGlobal text [] inGlobal text
  | cons {inGlobal text identifier isGlobal inner path lastGlobal last}
      (hidentifier : identifier ∈ placeholders text) (hcall : isCall identifier = false)
      (hlookup : scope.lookup inGlobal identifier = .ok (.str inner, isGlobal))
      (hrest : Chain scope isGlobal inner path lastGlobal last) :
      Chain scope inGlobal text (identifier :: path) lastGlobal last

/-- A chain from a text leads to a placeholder, which stands in a context. -/
def Reaches (scope : Scope) (text : Text) (inGlobal : Bool) (identifier : Text) : Prop :=
  ∃ path inner, Chain scope false text path inGlobal inner ∧ identifier ∈ placeholders inner

/-- A placeholder that is no call and no query into an outcome has the name of nothing that is seen
in its context. -/
structure Scope.Misses (scope : Scope) (inGlobal : Bool) (identifier : Text) : Prop where
  isCall_eq : isCall identifier = false
  outcomePath?_eq : scope.outcomePath? identifier = none
  locals_eq : inGlobal = false → Table.get? scope.locals identifier = none
  globals_eq : Table.get? scope.globals identifier = none
  env_eq : Table.get? scope.env identifier = none

theorem Chain.snoc {scope : Scope} {first last isGlobal : Bool} {text outer identifier inner : Text}
    {path : List Text} (hchain : Chain scope first text path last outer)
    (hidentifier : identifier ∈ placeholders outer) (hcall : isCall identifier = false)
    (hlookup : scope.lookup last identifier = .ok (.str inner, isGlobal)) :
    Chain scope first text (path ++ [identifier]) isGlobal inner := by
  induction hchain with
  | nil => exact .cons hidentifier hcall hlookup .nil
  | cons hfirst hfirstCall hfirstLookup _ ih =>
      exact .cons hfirst hfirstCall hfirstLookup (ih hidentifier hlookup)

/-- The path of an expansion is a chain to the text that is expanded there. -/
theorem Visited.chain {scope : Scope} {text inner : Text} {path : List Text} {inGlobal : Bool}
    (hvisited : Visited scope text path inGlobal inner) :
    Chain scope false text path inGlobal inner := by
  induction hvisited with
  | start => exact .nil
  | nested _ hidentifier hfollow ih =>
      obtain ⟨hcall, hlookup⟩ := Scope.lead_eq_text_iff.mp (Scope.follow_eq_text hfollow).2
      exact ih.snoc hidentifier hcall hlookup

/-! ## What is reported is so -/

namespace LeadFault

variable {scope : Scope} {inGlobal : Bool} {identifier name : Text}

theorem not_call_of_ofReference {problem : Problem} (hproblem : problem.OfReference)
    {sources after : Sources} :
    (Function.evaluate identifier).outcome sources ≠ (.error (.problem problem), after) := by
  intro hfault
  have hcall := Function.failsAsCall_evaluate identifier sources _ (congrArg Prod.fst hfault)
  exact hcall.not_ofReference hproblem

theorem misses_of_undefined
    (hfault : LeadFault scope inGlobal identifier (.problem (.undefinedVariable name))) :
    name = identifier ∧ inGlobal = false ∧ scope.Misses false name := by
  generalize hproblem : Fault.problem (.undefinedVariable name) = fault at hfault
  cases hfault with
  | call _ hcall =>
      subst hproblem
      exact absurd hcall (not_call_of_ofReference (.undefinedVariable name))
  | @query _ _ reason => cases reason <;> exact nomatch hproblem
  | hidden => exact nomatch hproblem
  | undefined hcall hpath hcontext hlocal hglobal henv =>
      obtain rfl : name = identifier := by simpa using hproblem
      exact ⟨rfl, hcontext, hcall, hpath, fun _ => hlocal, hglobal, henv⟩

theorem misses_of_hidden
    (hfault : LeadFault scope inGlobal identifier (.problem (.hiddenVariable name))) :
    name = identifier ∧ inGlobal = true ∧ scope.Misses true name := by
  generalize hproblem : Fault.problem (.hiddenVariable name) = fault at hfault
  cases hfault with
  | call _ hcall =>
      subst hproblem
      exact absurd hcall (not_call_of_ofReference (.hiddenVariable name))
  | @query _ _ reason => cases reason <;> exact nomatch hproblem
  | hidden hcall hpath hcontext hglobal henv =>
      obtain rfl : name = identifier := by simpa using hproblem
      exact ⟨rfl, hcontext, hcall, hpath, nofun, hglobal, henv⟩
  | undefined => exact nomatch hproblem

end LeadFault

section Reported

variable {scope : Scope} {text : Text} {sources : Sources}

theorem exists_chain_of_cycle {path : List Text}
    (hfault : ((expand scope text).outcome sources).1 = .error (.problem (.cycle path))) :
    ∃ before last inGlobal inner, path = before ++ [last] ∧ before.Nodup ∧ last ∈ before ∧
      Chain scope false text before inGlobal inner ∧ last ∈ placeholders inner := by
  obtain ⟨before, inGlobal, inner, last, hfails⟩ := exists_failsAt hfault
  rcases hfails.fault_of_follow with ⟨hmem, hcycle⟩ | hlead
  · have hpath : path = before ++ [last] := by simpa using hcycle
    exact ⟨before, last, inGlobal, inner, hpath, hfails.visited.nodup, hmem, hfails.visited.chain,
      hfails.mem_placeholders⟩
  · exact absurd hlead LeadFault.not_cycle

theorem reaches_of_undefined {name : Text}
    (hfault : ((expand scope text).outcome sources).1 =
      .error (.problem (.undefinedVariable name))) :
    Reaches scope text false name ∧ scope.Misses false name := by
  obtain ⟨path, inGlobal, inner, identifier, hfails⟩ := exists_failsAt hfault
  rcases hfails.fault_of_follow with ⟨-, hcycle⟩ | hlead
  · exact nomatch hcycle
  · obtain ⟨rfl, rfl, hmisses⟩ := hlead.misses_of_undefined
    exact ⟨⟨path, inner, hfails.visited.chain, hfails.mem_placeholders⟩, hmisses⟩

theorem reaches_of_hidden {name : Text}
    (hfault : ((expand scope text).outcome sources).1 = .error (.problem (.hiddenVariable name))) :
    Reaches scope text true name ∧ scope.Misses true name := by
  obtain ⟨path, inGlobal, inner, identifier, hfails⟩ := exists_failsAt hfault
  rcases hfails.fault_of_follow with ⟨-, hcycle⟩ | hlead
  · exact nomatch hcycle
  · obtain ⟨rfl, rfl, hmisses⟩ := hlead.misses_of_hidden
    exact ⟨⟨path, inner, hfails.visited.chain, hfails.mem_placeholders⟩, hmisses⟩

end Reported

/-! ## What is missing is reported -/

/-- A placeholder is filled with a text, behind some path and from some sources. -/
def Scope.IsFilled (scope : Scope) (inGlobal : Bool) (identifier : Text) : Prop :=
  match scope.lead inGlobal identifier with
  | .done found => ∃ sources value after, found.outcome sources = (.ok value, after)
  | .text isGlobal inner => ∃ path sources value after,
      Fills scope.follow path isGlobal (Piece.ofText inner) sources (.ok value) after

/-- Among pieces that are filled with a text every placeholder is filled with one. -/
theorem Fills.isFilled_of_mem {scope : Scope} {path : List Text} {inGlobal : Bool}
    {pieces : List Piece} {sources after : Sources} {result : Except Fault Text}
    (hfills : Fills scope.follow path inGlobal pieces sources result after)
    {filled identifier : Text} (hfilled : result = .ok filled)
    (hmem : .hole identifier ∈ pieces) : scope.IsFilled inGlobal identifier := by
  induction hfills generalizing filled with
  | nil => exact nomatch hmem
  | @plain path inGlobal rest sources result after text hrest ih =>
      cases result with
      | error fault => exact nomatch hfilled
      | ok value => exact ih rfl (by simpa using hmem)
  | @done path inGlobal first rest sources found value between result after hfollow hfound _ ih =>
      rcases List.mem_cons.mp hmem with heq | hmem
      · obtain rfl := Piece.hole.inj heq
        rcases Scope.follow_eq path inGlobal identifier with hsame | ⟨-, hcycle⟩
        · rw [Scope.IsFilled, ← hsame, hfollow]
          exact ⟨sources, value, between, hfound⟩
        · -- a placeholder that repeats one before it is not filled
          rw [← Lead.done.inj (hcycle.symm.trans hfollow)] at hfound
          exact nomatch (Prod.mk.inj hfound).1
      · cases result with
        | error fault => exact nomatch hfilled
        | ok value => exact ih rfl hmem
  | doneFails => exact nomatch hfilled
  | @text path inGlobal first rest sources isGlobal inner value between result after hfollow hinner
      _ _ ih =>
      rcases List.mem_cons.mp hmem with heq | hmem
      · obtain rfl := Piece.hole.inj heq
        rw [Scope.IsFilled, (Scope.follow_eq_text hfollow).2]
        exact ⟨_, sources, value, between, hinner⟩
      · cases result with
        | error fault => exact nomatch hfilled
        | ok value => exact ih rfl hmem
  | textFails => exact nomatch hfilled

theorem Scope.Misses.not_isFilled {scope : Scope} {inGlobal : Bool} {identifier : Text}
    (hmisses : scope.Misses inGlobal identifier) : ¬ scope.IsFilled inGlobal identifier := by
  obtain ⟨hcall, hpath, hlocal, hglobal, henv⟩ := hmisses
  have hmissing (missing : Text → Problem) :
      scope.lookupGlobal missing identifier = .error (.problem (missing identifier)) := by
    rw [lookupGlobal, hglobal, henv]
  have hlead : ∃ fault, scope.lead inGlobal identifier = .done (throw fault) := by
    cases inGlobal with
    | true => simp [lead, lookup, hcall, hpath, hmissing]
    | false => simp [lead, lookup, hcall, hpath, hmissing, hlocal rfl]
  obtain ⟨fault, hlead⟩ := hlead
  rw [IsFilled, hlead]
  rintro ⟨sources, value, after, hfound⟩
  cases (Prod.mk.inj hfound).1

/-- Where a chain leads to a placeholder that misses its value, the first text is not filled. -/
theorem Chain.not_filled {scope : Scope} {inGlobal lastGlobal : Bool} {text last : Text}
    {chain : List Text} (hchain : Chain scope inGlobal text chain lastGlobal last)
    {identifier : Text} (hidentifier : identifier ∈ placeholders last)
    (hmisses : scope.Misses lastGlobal identifier) {path : List Text} {sources after : Sources}
    {filled : Text} :
    ¬ Fills scope.follow path inGlobal (Piece.ofText text) sources (.ok filled) after := by
  intro hfills
  induction hchain generalizing path sources after filled with
  | nil => exact hmisses.not_isFilled (hfills.isFilled_of_mem rfl (hole_mem_ofText hidentifier))
  | cons hfirst hcall hlookup _ ih =>
      have hlead := Scope.lead_eq_text_iff.mpr ⟨hcall, hlookup⟩
      have hinner := hfills.isFilled_of_mem rfl (hole_mem_ofText hfirst)
      rw [Scope.IsFilled, hlead] at hinner
      obtain ⟨path, sources, value, after, hinner⟩ := hinner
      exact ih hidentifier hmisses hinner

/-- What expansion reports about references is so.  The path of a cycle is a chain of distinct
identifiers that ends in a text with a placeholder for one of them.  A variable is undefined where a
chain leads to its placeholder in local context, hidden where one leads there in global context, and
nothing of its name is seen.  A text from which such a placeholder is reached is never filled. -/
theorem expand_reports_truly (scope : Scope) (text : Text) (sources : Sources) :
    (∀ path, ((expand scope text).outcome sources).1 = .error (.problem (.cycle path)) →
      ∃ before last inGlobal inner, path = before ++ [last] ∧ before.Nodup ∧ last ∈ before ∧
        Chain scope false text before inGlobal inner ∧ last ∈ placeholders inner) ∧
    (∀ name,
      ((expand scope text).outcome sources).1 = .error (.problem (.undefinedVariable name)) →
        Reaches scope text false name ∧ scope.Misses false name) ∧
    (∀ name, ((expand scope text).outcome sources).1 = .error (.problem (.hiddenVariable name)) →
      Reaches scope text true name ∧ scope.Misses true name) ∧
    (∀ inGlobal name, Reaches scope text inGlobal name → scope.Misses inGlobal name →
      ∀ filled, ((expand scope text).outcome sources).1 ≠ .ok filled) := by
  refine ⟨fun path hcycle => exists_chain_of_cycle hcycle,
    fun name hundefined => reaches_of_undefined hundefined,
    fun name hhidden => reaches_of_hidden hhidden,
    fun inGlobal name hreaches hmisses filled heq => ?_⟩
  obtain ⟨path, inner, hchain, hidentifier⟩ := hreaches
  have hfills := fills_expand scope text sources
  rw [heq] at hfills
  exact hchain.not_filled hidentifier hmisses hfills

/-- A local variable is hidden below the value of a global one, so that value is never filled. -/
theorem expand_reports_truly_hidden :
    let scope : Scope :=
      { env := [], outcomes := []
        globals := [("g", ⟨some "\x7b\x7bx\x7d\x7d", true⟩)]
        locals := [("x", ⟨some "1", false⟩)] }
    Reaches scope "\x7b\x7bg\x7d\x7d" true "x" ∧
      ∀ sources filled, ((expand scope "\x7b\x7bg\x7d\x7d").outcome sources).1 ≠ .ok filled := by
  intro scope
  obtain ⟨-, -, hhidden, -⟩ := expand_reports_truly scope "\x7b\x7bg\x7d\x7d" .sample
  obtain ⟨hreaches, hmisses⟩ := hhidden "x" rfl
  refine ⟨hreaches, fun sources => ?_⟩
  exact (expand_reports_truly scope "\x7b\x7bg\x7d\x7d" sources).2.2.2 true "x" hreaches hmisses

end HttpScript
