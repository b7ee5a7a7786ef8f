import HttpScript.Proofs.Placeholder.Function
import HttpScript.Proofs.Placeholder.Termination

/-!
# Where a fault comes from

When an expansion fails, one placeholder of a text that was entered fails, and its fault is the
fault of the whole.  There are few ways for a placeholder to fail: it repeats one of its path, it is
a call that fails by itself, the path behind the name of an outcome is no query, or nothing has its
name.
-/

namespace HttpScript

/-! ## How a placeholder fails -/

/-- What a placeholder can fail with in a context, if it repeats none before it. -/
inductive LeadFault (scope : Scope) (inGlobal : Bool) (identifier : Text) : Fault → Prop
  | call {fault sources after} (hcall : isCall identifier = true)
      (hfault : (Function.evaluate identifier).outcome sources = (.error fault, after)) :
      LeadFault scope inGlobal identifier fault
  | query {outcome path fault} (hcall : isCall identifier = false)
      (hpath : scope.outcomePath? identifier = some (outcome, path))
      (hread : Query.read path = .error fault) :
      LeadFault scope inGlobal identifier (Fault.ofQuery path fault)
  | hidden (hcall : isCall identifier = false) (hpath : scope.outcomePath? identifier = none)
      (hcontext : inGlobal = true) (hglobal : Table.get? scope.globals identifier = none)
      (henv : Table.get? scope.env identifier = none) :
      LeadFault scope inGlobal identifier (.problem (.hiddenVariable identifier))
  | undefined (hcall : isCall identifier = false) (hpath : scope.outcomePath? identifier = none)
      (hcontext : inGlobal = false) (hlocal : Table.get? scope.locals identifier = none)
      (hglobal : Table.get? scope.globals identifier = none)
      (henv : Table.get? scope.env identifier = none) :
      LeadFault scope inGlobal identifier (.problem (.undefinedVariable identifier))

namespace Scope

variable {scope : Scope} {inGlobal : Bool} {identifier : Text} {fault : Fault}

theorem outcomeValue_eq_error {outcome : Json} {path : Text}
    (hvalue : outcomeValue outcome path = .error fault) :
    ∃ reason, Query.read path = .error reason ∧ fault = Fault.ofQuery path reason := by
  unfold outcomeValue at hvalue
  split at hvalue
  · exact nomatch hvalue
  · next reason hread => exact ⟨reason, hread, (Except.error.inj hvalue).symm⟩

theorem lookupGlobal_eq_error {missing : Text → Problem}
    (hlookup : scope.lookupGlobal missing identifier = .error fault) :
    Table.get? scope.globals identifier = none ∧ Table.get? scope.env identifier = none ∧
      fault = .problem (missing identifier) := by
  unfold lookupGlobal at hlookup
  split at hlookup
  · exact nomatch hlookup
  · next hglobal =>
      split at hlookup
      · exact nomatch hlookup
      · next henv => exact ⟨hglobal, henv, (Except.error.inj hlookup).symm⟩

theorem leadFault_of_lookup (hcall : isCall identifier = false)
    (hlookup : scope.lookup inGlobal identifier = .error fault) :
    LeadFault scope inGlobal identifier fault := by
  unfold lookup at hlookup
  split at hlookup
  · next outcome path hpath =>
      cases hvalue : outcomeValue outcome path with
      | ok value =>
          rw [hvalue] at hlookup
          exact nomatch hlookup
      | error other =>
          rw [hvalue] at hlookup
          obtain ⟨reason, hread, hother⟩ := outcomeValue_eq_error hvalue
          rw [← Except.error.inj hlookup, hother]
          exact .query hcall hpath hread
  · next hpath =>
      cases inGlobal with
      | true =>
          rw [if_pos rfl] at hlookup
          obtain ⟨hglobal, henv, rfl⟩ := lookupGlobal_eq_error hlookup
          exact .hidden hcall hpath rfl hglobal henv
      | false =>
          rw [if_neg Bool.false_ne_true] at hlookup
          split at hlookup
          · exact nomatch hlookup
          · next hlocal =>
              obtain ⟨hglobal, henv, rfl⟩ := lookupGlobal_eq_error hlookup
              exact .undefined hcall hpath rfl hlocal hglobal henv

theorem leadFault_of_outcome {found : Expanding Text} {sources after : Sources}
    (hlead : scope.lead inGlobal identifier = .done found)
    (hfound : found.outcome sources = (.error fault, after)) :
    LeadFault scope inGlobal identifier fault := by
  unfold lead at hlead
  split at hlead
  · next hcall =>
      rw [← Lead.done.inj hlead] at hfound
      exact .call hcall hfound
  · next hcall =>
      rw [Bool.not_eq_true] at hcall
      split at hlead
      · next other hlookup =>
          rw [← Lead.done.inj hlead] at hfound
          obtain rfl : other = fault := Except.error.inj (Prod.mk.inj hfound).1
          exact leadFault_of_lookup hcall hlookup
      · exact nomatch hlead
      · rw [← Lead.done.inj hlead] at hfound
        exact nomatch (Prod.mk.inj hfound).1

/-- A path changes what a placeholder leads to only by reporting a cycle. -/
theorem follow_eq (path : List Text) (inGlobal : Bool) (identifier : Text) :
    scope.follow path inGlobal identifier = scope.lead inGlobal identifier ∨
      identifier ∈ path ∧ scope.follow path inGlobal identifier =
        .done (throw (.problem (.cycle (path ++ [identifier])))) := by
  rw [follow]
  split
  · next hguard =>
      obtain ⟨-, hmem⟩ := Bool.and_eq_true_iff.mp hguard
      exact .inr ⟨List.contains_iff_mem.mp hmem, rfl⟩
  · exact .inl rfl

/-- What a path adds to the faults of a placeholder. -/
theorem fault_of_follow {path : List Text} {found : Expanding Text} {sources after : Sources}
    (hfollow : scope.follow path inGlobal identifier = .done found)
    (hfound : found.outcome sources = (.error fault, after)) :
    identifier ∈ path ∧ fault = .problem (.cycle (path ++ [identifier])) ∨
      LeadFault scope inGlobal identifier fault := by
  rcases follow_eq path inGlobal identifier with hsame | ⟨hmem, hcycle⟩
  · exact .inr (leadFault_of_outcome (hsame.symm.trans hfollow) hfound)
  · rw [← Lead.done.inj (hcycle.symm.trans hfollow)] at hfound
    exact .inl ⟨hmem, (Except.error.inj (Prod.mk.inj hfound).1).symm⟩

end Scope

theorem CallFault.not_ofReference {problem : Problem} (hfault : CallFault (.problem problem)) :
    ¬ problem.OfReference := by
  cases hfault with
  | problem _ hown =>
      intro hreference
      cases hreference <;> cases hown

namespace LeadFault

variable {scope : Scope} {inGlobal : Bool} {identifier : Text}

/-- Where a placeholder repeats none before it, no cycle is reported. -/
theorem not_cycle {path : List Text} :
    ¬ LeadFault scope inGlobal identifier (.problem (.cycle path)) := by
  generalize hcycle : Fault.problem (.cycle path) = fault
  intro hfault
  cases hfault with
  | call _ hfault =>
      have hcall := Function.failsAsCall_evaluate identifier _ _ (congrArg Prod.fst hfault)
      rw [← hcycle] at hcall
      exact hcall.not_ofReference (.cycle path)
  | @query _ _ reason => cases reason <;> exact nomatch hcycle
  | hidden => exact nomatch hcycle
  | undefined => exact nomatch hcycle

/-- A placeholder breaks down by a date that leaves the calendar or by a slice without digits. -/
theorem of_breakdown {breakdown : Breakdown}
    (hfault : LeadFault scope inGlobal identifier (.breakdown breakdown)) :
    (∃ fault sources after, breakdown = .shift fault ∧ isCall identifier = true ∧
      (Function.evaluate identifier).outcome sources =
        (.error (.breakdown (.shift fault)), after)) ∨
    ∃ outcome path, breakdown = .loneSign ∧ isCall identifier = false ∧
      scope.outcomePath? identifier = some (outcome, path) ∧
      Query.read path = .error .loneSign := by
  generalize hbreakdown : Fault.breakdown breakdown = fault at hfault
  cases hfault with
  | @call fault sources after hcall hfault =>
      subst hbreakdown
      cases Function.failsAsCall_evaluate identifier _ _ (congrArg Prod.fst hfault) with
      | shift fault => exact .inl ⟨fault, sources, after, rfl, hcall, hfault⟩
  | @query outcome path reason hcall hpath hread =>
      cases reason with
      | malformed => exact nomatch hbreakdown
      | loneSign => exact .inr ⟨outcome, path, Fault.breakdown.inj hbreakdown, hcall, hpath, hread⟩
  | hidden => exact nomatch hbreakdown
  | undefined => exact nomatch hbreakdown

end LeadFault

/-! ## One placeholder fails -/

/-- While a text is expanded, a placeholder of a text that is entered fails. -/
structure FailsAt (scope : Scope) (text : Text) (path : List Text) (inGlobal : Bool)
    (inner identifier : Text) (fault : Fault) : Prop where
  visited : Visited scope text path inGlobal inner
  mem_placeholders : identifier ∈ placeholders inner
  fault_of_follow : identifier ∈ path ∧ fault = .problem (.cycle (path ++ [identifier])) ∨
    LeadFault scope inGlobal identifier fault

/-- The pieces before the failing placeholder are filled, and whatever is entered for it fails in
turn, down to a placeholder that leads to no text. -/
theorem exists_failsAt_of_fills {scope : Scope} {text outer : Text} {path : List Text}
    {inGlobal : Bool} {pieces : List Piece} {sources after : Sources} {result : Except Fault Text}
    {fault : Fault} (hfills : Fills scope.follow path inGlobal pieces sources result after)
    (hresult : result = .error fault) (hvisited : Visited scope text path inGlobal outer)
    (hpieces : ∀ identifier, .hole identifier ∈ pieces → identifier ∈ placeholders outer) :
    ∃ path inGlobal inner identifier,
      FailsAt scope text path inGlobal inner identifier fault := by
  induction hfills generalizing outer with
  | nil => exact nomatch hresult
  | @plain path inGlobal rest sources result after plain hrest ih =>
      cases result with
      | ok value => exact nomatch hresult
      | error other =>
          exact ih hresult hvisited fun identifier hmem =>
            hpieces identifier (List.mem_cons_of_mem _ hmem)
  | @done path inGlobal identifier rest sources found value between result after hlead hfound
      _ ih =>
      cases result with
      | ok value => exact nomatch hresult
      | error other =>
          exact ih hresult hvisited fun identifier hmem =>
            hpieces identifier (List.mem_cons_of_mem _ hmem)
  | @doneFails path inGlobal identifier rest sources found other after hlead hfound =>
      obtain rfl : other = fault := Except.error.inj hresult
      exact ⟨path, inGlobal, outer, identifier, hvisited, hpieces identifier List.mem_cons_self,
        Scope.fault_of_follow hlead hfound⟩
  | @text path inGlobal identifier rest sources isGlobal inner value between result after hlead
      _ _ _ ih =>
      cases result with
      | ok value => exact nomatch hresult
      | error other =>
          exact ih hresult hvisited fun identifier hmem =>
            hpieces identifier (List.mem_cons_of_mem _ hmem)
  | @textFails path inGlobal identifier rest sources isGlobal inner other after hlead _ ih =>
      have hidentifier := hpieces identifier List.mem_cons_self
      exact ih hresult (hvisited.nested hidentifier hlead) fun _ hmem => mem_placeholders hmem

/-- A fault of an expansion is the fault of one placeholder. -/
theorem exists_failsAt {scope : Scope} {text : Text} {sources : Sources} {fault : Fault}
    (hfault : ((expand scope text).outcome sources).1 = .error fault) :
    ∃ path inGlobal inner identifier, FailsAt scope text path inGlobal inner identifier fault :=
  exists_failsAt_of_fills (fills_expand scope text sources) hfault .start
    fun _ hmem => mem_placeholders hmem

end HttpScript
