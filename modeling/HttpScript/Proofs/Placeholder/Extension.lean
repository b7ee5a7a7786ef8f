import HttpScript.Proofs.Placeholder.Function
import HttpScript.Proofs.Placeholder.Termination

/-!
# Larger scopes

A scope can grow in two ways without touching a text that was filled before.  The environment is
asked last, so a name that it gets in addition is only ever asked for where nothing had been found.
A variable is asked for first, so it may only get a name that was not bound at all.

In both cases a placeholder that was found before is found again as what it was, in each of the two
contexts.  The placeholders of a filled text, and of all texts on the way to it, were found.
-/

namespace HttpScript

namespace Scope

/-- Neither a variable nor a value of the environment has a name. -/
structure IsUnbound (scope : Scope) (name : Text) : Prop where
  locals_eq : Table.get? scope.locals name = none
  globals_eq : Table.get? scope.globals name = none
  env_eq : Table.get? scope.env name = none

/-- A scope grows: the environment by any names that it had not, the variables by names that were
not bound. -/
structure IsExtendedBy (scope other : Scope) : Prop where
  outcomes_eq : other.outcomes = scope.outcomes
  env_eq : ∀ name value, Table.get? scope.env name = some value →
    Table.get? other.env name = some value
  locals_eq : ∀ name, scope.IsUnbound name ∨
    Table.get? other.locals name = Table.get? scope.locals name
  globals_eq : ∀ name, scope.IsUnbound name ∨
    Table.get? other.globals name = Table.get? scope.globals name

namespace IsExtendedBy

variable {scope other : Scope} {inGlobal : Bool} {identifier : Text}

theorem outcomePath?_eq (hextended : scope.IsExtendedBy other) :
    other.outcomePath? identifier = scope.outcomePath? identifier := by
  unfold outcomePath?
  rw [hextended.outcomes_eq]

theorem lookupGlobal_eq_ok (hextended : scope.IsExtendedBy other) {missing : Text → Problem}
    {found : Json × Bool} (hlookup : scope.lookupGlobal missing identifier = .ok found) :
    other.lookupGlobal missing identifier = .ok found := by
  unfold lookupGlobal at hlookup ⊢
  rcases hextended.globals_eq identifier with hunbound | hglobals
  · rw [hunbound.globals_eq, hunbound.env_eq] at hlookup
    exact nomatch hlookup
  · rw [hglobals]
    cases hglobal : Table.get? scope.globals identifier with
    | some declared =>
        rw [hglobal] at hlookup
        exact hlookup
    | none =>
        rw [hglobal] at hlookup
        cases henv : Table.get? scope.env identifier with
        | some text =>
            rw [henv] at hlookup
            rw [hextended.env_eq identifier text henv]
            exact hlookup
        | none =>
            rw [henv] at hlookup
            exact nomatch hlookup

/-- What was found is found again. -/
theorem lookup_eq_ok (hextended : scope.IsExtendedBy other) {found : Json × Bool}
    (hlookup : scope.lookup inGlobal identifier = .ok found) :
    other.lookup inGlobal identifier = .ok found := by
  unfold lookup at hlookup ⊢
  rw [hextended.outcomePath?_eq]
  cases hpath : scope.outcomePath? identifier with
  | some target =>
      rw [hpath] at hlookup
      exact hlookup
  | none =>
      rw [hpath] at hlookup
      cases inGlobal with
      | true => exact hextended.lookupGlobal_eq_ok hlookup
      | false =>
          rcases hextended.locals_eq identifier with hunbound | hlocals
          · -- a name that was not bound was not found
            simp [hunbound.locals_eq, lookupGlobal, hunbound.globals_eq, hunbound.env_eq] at hlookup
          · dsimp only at hlookup ⊢
            rw [if_neg Bool.false_ne_true] at hlookup ⊢
            rw [hlocals]
            cases hlocal : Table.get? scope.locals identifier with
            | some declared =>
                rw [hlocal] at hlookup
                exact hlookup
            | none =>
                rw [hlocal] at hlookup
                exact hextended.lookupGlobal_eq_ok hlookup

/-- A placeholder that does not fail right away leads where it led. -/
theorem lead_eq (hextended : scope.IsExtendedBy other)
    (hlead : ∀ fault, scope.lead inGlobal identifier ≠ .done (throw fault)) :
    other.lead inGlobal identifier = scope.lead inGlobal identifier := by
  unfold lead at hlead ⊢
  cases hcall : isCall identifier with
  | true => rfl
  | false =>
      cases hlookup : scope.lookup inGlobal identifier with
      | ok found => rw [hextended.lookup_eq_ok hlookup]
      | error fault =>
          refine absurd ?_ (hlead fault)
          rw [hcall, hlookup]
          rfl

theorem follow_eq (hextended : scope.IsExtendedBy other) {path : List Text}
    (hfollow : ∀ fault, scope.follow path inGlobal identifier ≠ .done (throw fault)) :
    other.follow path inGlobal identifier = scope.follow path inGlobal identifier := by
  unfold follow at hfollow ⊢
  split
  · rfl
  · next hguard =>
      rw [if_neg hguard] at hfollow
      exact hextended.lead_eq hfollow

end IsExtendedBy

end Scope

/-! ## What is filled with a text -/

theorem Expanding.not_ok_throw {α : Type} {fault : Fault} {sources after : Sources} {value : α} :
    (throw fault : Expanding α).outcome sources ≠ (.ok value, after) := nofun

/-- Filling with a text only meets placeholders that do not fail, so it is enough to know where
those lead. -/
theorem Fills.of_leads {lead other : List Text → Bool → Text → Lead}
    (hleads : ∀ path inGlobal identifier,
      (∀ fault, lead path inGlobal identifier ≠ .done (throw fault)) →
        other path inGlobal identifier = lead path inGlobal identifier)
    {path : List Text} {inGlobal : Bool} {pieces : List Piece} {sources after : Sources}
    {result : Except Fault Text} (hfills : Fills lead path inGlobal pieces sources result after)
    {filled : Text} (hfilled : result = .ok filled) :
    Fills other path inGlobal pieces sources result after := by
  induction hfills generalizing filled with
  | nil => exact .nil
  | @plain _ _ _ _ result _ text _ ih =>
      cases result with
      | error fault => exact nomatch hfilled
      | ok value => exact .plain text (ih rfl)
  | @done path inGlobal identifier _ _ found _ _ result _ hlead hfound _ ih =>
      cases result with
      | error fault => exact nomatch hfilled
      | ok value =>
          refine .done ((hleads path inGlobal identifier fun fault hthrow => ?_).trans hlead) hfound
            (ih rfl)
          rw [← Lead.done.inj (hthrow.symm.trans hlead)] at hfound
          exact Expanding.not_ok_throw hfound
  | doneFails => exact nomatch hfilled
  | @text path inGlobal identifier _ _ _ _ _ _ result _ hlead _ _ ihInner ih =>
      cases result with
      | error fault => exact nomatch hfilled
      | ok value =>
          have hsame := hleads path inGlobal identifier fun _ hthrow =>
            nomatch hthrow.symm.trans hlead
          exact .text (hsame.trans hlead) (ihInner rfl) (ih rfl)
  | textFails => exact nomatch hfilled

/-- A text that is filled in a scope is filled with the same text when the scope grows, and what is
left of the sources is the same. -/
theorem expand_of_isExtendedBy {scope other : Scope} (hextended : scope.IsExtendedBy other)
    {text filled : Text} {sources after : Sources}
    (hfilled : (expand scope text).outcome sources = (.ok filled, after)) :
    (expand other text).outcome sources = (.ok filled, after) := by
  have hfills := fills_expand scope text sources
  rw [hfilled] at hfills
  have hother : Fills other.follow [] false (Piece.ofText text) sources (.ok filled) after :=
    hfills.of_leads (fun _ _ _ hfollow => hextended.follow_eq hfollow) rfl
  obtain ⟨hresult, hafter⟩ := hother.unique (fills_expand other text sources)
  exact Prod.ext hresult hafter

/-- The environment gets the names of a variable and of an outcome, and a variable is added. -/
theorem expand_of_isExtendedBy_shadowing :
    let scope : Scope :=
      { env := [("host", "h")]
        globals := [("api", ⟨some "\x7b\x7bhost\x7d\x7d/v2", true⟩)]
        locals := [("id", ⟨some "7", false⟩)]
        outcomes := [("login", .object [("token", .str "t")])] }
    let other : Scope :=
      { scope with
        env := [("host", "h"), ("api", "a"), ("id", "i"), ("login", "l")]
        locals := [("id", ⟨some "7", false⟩), ("page", ⟨some "p", false⟩)] }
    let text : Text := "\x7b\x7bapi\x7d\x7d/\x7b\x7bid\x7d\x7d?\x7b\x7blogin.token\x7d\x7d"
    scope.IsExtendedBy other ∧ (expand scope text).outcome .sample = (.ok "h/v2/7?t", .sample) ∧
      (expand other text).outcome .sample = (.ok "h/v2/7?t", .sample) := by
  intro scope other text
  have hextended : scope.IsExtendedBy other := by
    refine ⟨rfl, fun name value henv => ?_, fun name => ?_, fun name => .inr rfl⟩
    · obtain ⟨hname, hvalue⟩ : "host".toList = name ∧ "h".toList = value := by
        simpa [scope, Table.get?] using henv
      rw [← hname, ← hvalue]
      rfl
    · by_cases hname : "page".toList = name
      · exact .inl (hname ▸ ⟨rfl, rfl, rfl⟩)
      · refine .inr ?_
        simp only [other, scope, Table.get?, if_neg hname]
  have hfilled : (expand scope text).outcome .sample = (.ok "h/v2/7?t", .sample) := rfl
  exact ⟨hextended, hfilled, expand_of_isExtendedBy hextended hfilled⟩

end HttpScript
