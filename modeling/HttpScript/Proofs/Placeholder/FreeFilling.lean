import HttpScript.Proofs.Placeholder.Faults
import Mathlib.Logic.Relation

/-!
# Filling without a check for cycles

Nothing stops such filling from going on for ever, so it may have no result.  Where it has one, all
chains of texts that it enters are finite.

The same text can be entered more than once, with other sources each time, since functions use them
up.  But only the number of identifiers given out changes, and on that number it does not depend
whether filling gives a text, nor which texts it enters.
-/

namespace HttpScript

/-- Filling without a check for cycles.  The path is carried along and never looked at. -/
abbrev FillsFreely (scope : Scope) :=
  Fills fun _ => scope.lead

/-! ## Filling from matching sources -/

theorem isOk_map {Problem α β : Type} (result : Except Problem α) (f : α → β) :
    (result.map f).isOk = result.isOk := by
  cases result <;> rfl

namespace FillsFreely

variable {scope : Scope} {base : Sources} {path : List Text} {inGlobal : Bool}
  {pieces : List Piece} {sources after : Sources} {result : Except Fault Text}

theorem match_after (hfills : FillsFreely scope path inGlobal pieces sources result after)
    (hmatch : Sources.Match base sources) : Sources.Match base after := by
  induction hfills with
  | nil => exact hmatch
  | plain _ _ ih => exact ih hmatch
  | done hlead hfound _ ih => exact ih ((IsEven.of_lead hlead).match_of_outcome hmatch hfound)
  | doneFails hlead hfound => exact (IsEven.of_lead hlead).match_of_outcome hmatch hfound
  | text _ _ _ ihInner ih => exact ih (ihInner hmatch)
  | textFails _ _ ihInner => exact ihInner hmatch

/-- Whether filling gives a text does not depend on the identifiers given out. -/
theorem isOk_eq (hfills : FillsFreely scope path inGlobal pieces sources result after)
    (hmatch : Sources.Match base sources) {otherPath : List Text} {other otherAfter : Sources}
    {otherResult : Except Fault Text}
    (hother : FillsFreely scope otherPath inGlobal pieces other otherResult otherAfter)
    (hotherMatch : Sources.Match base other) : result.isOk = otherResult.isOk := by
  induction hfills generalizing otherPath other otherAfter otherResult with
  | nil => cases hother; rfl
  | plain _ _ ih =>
      cases hother with
      | plain _ hrest =>
          rw [isOk_map, isOk_map]
          exact ih hmatch hrest hotherMatch
  | done hlead hfound hrest ih =>
      have heven := IsEven.of_lead hlead
      rcases hother.of_done hlead with ⟨value, between, rest, hotherFound, hotherRest, rfl⟩ |
        ⟨fault, hotherFound, rfl⟩
      · rw [isOk_map, isOk_map]
        exact ih (heven.match_of_outcome hmatch hfound) hotherRest
          (heven.match_of_outcome hotherMatch hotherFound)
      · exact nomatch heven.isOk_eq_of_outcome hmatch hfound hotherMatch hotherFound
  | doneFails hlead hfound =>
      have heven := IsEven.of_lead hlead
      rcases hother.of_done hlead with ⟨value, between, rest, hotherFound, hotherRest, rfl⟩ |
        ⟨fault, hotherFound, rfl⟩
      · exact nomatch heven.isOk_eq_of_outcome hmatch hfound hotherMatch hotherFound
      · rfl
  | text hlead hinner hrest ihInner ih =>
      rcases hother.of_text hlead with ⟨value, between, rest, hotherInner, hotherRest, rfl⟩ |
        ⟨fault, hotherInner, rfl⟩
      · rw [isOk_map, isOk_map]
        exact ih (match_after hinner hmatch) hotherRest (match_after hotherInner hotherMatch)
      · exact nomatch ihInner hmatch hotherInner hotherMatch
  | textFails hlead hinner ihInner =>
      rcases hother.of_text hlead with ⟨value, between, rest, hotherInner, hotherRest, rfl⟩ |
        ⟨fault, hotherInner, rfl⟩
      · exact nomatch ihInner hmatch hotherInner hotherMatch
      · rfl

end FillsFreely

/-! ## No cycle is reported -/

/-- A result that is not the report of a cycle. -/
def NoCycle {α : Type} (result : Except Fault α) : Prop :=
  ∀ path, result ≠ .error (.problem (.cycle path))

namespace NoCycle

variable {α β : Type} {result : Except Fault α}

theorem ok (value : α) : NoCycle (.ok value : Except Fault α) := nofun

theorem map (hresult : NoCycle result) (f : α → β) : NoCycle (result.map f) := by
  cases result with
  | error fault => exact fun path heq => hresult path (congrArg _ (Except.error.inj heq))
  | ok value => exact ok (f value)

end NoCycle

/-- Filling without a check reports no cycle. -/
theorem FillsFreely.noCycle {scope : Scope} {path : List Text}
    {inGlobal : Bool} {pieces : List Piece} {sources after : Sources} {result : Except Fault Text}
    (hfills : FillsFreely scope path inGlobal pieces sources result after) : NoCycle result := by
  induction hfills with
  | nil => exact .ok _
  | plain _ _ ih => exact ih.map _
  | done _ _ _ ih => exact ih.map _
  | doneFails hlead hfound =>
      intro path heq
      have hfault := Scope.leadFault_of_outcome hlead hfound
      rw [Except.error.inj heq] at hfault
      exact hfault.not_cycle
  | text _ _ _ _ ih => exact ih.map _
  | textFails _ _ ihInner => exact ihInner

/-! ## What filling enters -/

/-- A piece that is filled with a text, whatever comes before it. -/
def Passes (scope : Scope) (base : Sources) (inGlobal : Bool) : Piece → Prop
  | .plain _ => True
  | .hole identifier =>
      match scope.lead inGlobal identifier with
      | .done found => (found.outcome base).1.isOk = true
      | .text isGlobal inner => ∃ path sources value after, Sources.Match base sources ∧
          FillsFreely scope path isGlobal (Piece.ofText inner) sources (.ok value) after

/-- Filling one text enters another: a placeholder leads there, and what stands before it is
passed. -/
def Enters (scope : Scope) (base : Sources) (outer inner : Bool × Text) : Prop :=
  ∃ before identifier after, Piece.ofText outer.2 = before ++ .hole identifier :: after ∧
    (∀ piece ∈ before, Passes scope base outer.1 piece) ∧
    scope.lead outer.1 identifier = .text inner.1 inner.2

/-- All chains of texts that are entered from a place are finite. -/
abbrev Ends (scope : Scope) (base : Sources) (place : Bool × Text) : Prop :=
  Acc (fun inner outer => Enters scope base outer inner) place

/-- From a place where all chains are finite filling does not come back to it. -/
theorem Ends.not_loop {scope : Scope} {base : Sources} {place : Bool × Text}
    (hends : Ends scope base place) {last : Bool × Text}
    (hchain : Relation.ReflTransGen (Enters scope base) place last)
    (hback : Enters scope base last place) : False := by
  induction hends generalizing last with
  | intro place _ ih =>
      rcases hchain.cases_head with rfl | ⟨next, hnext, hrest⟩
      · exact ih place hback .refl hback
      · exact ih next hnext (hrest.tail hback) hnext

/-- Every text that filling the pieces enters is one from which all chains are finite. -/
def LeadToEnds (scope : Scope) (base : Sources) (inGlobal : Bool) (pieces : List Piece) : Prop :=
  ∀ before identifier after, pieces = before ++ .hole identifier :: after →
    (∀ piece ∈ before, Passes scope base inGlobal piece) → ∀ isGlobal inner,
      scope.lead inGlobal identifier = .text isGlobal inner → Ends scope base (isGlobal, inner)

namespace LeadToEnds

variable {scope : Scope} {base : Sources} {inGlobal : Bool}

theorem cons {piece : Piece} {rest : List Piece}
    (hpiece : ∀ identifier, piece = .hole identifier → ∀ isGlobal inner,
      scope.lead inGlobal identifier = .text isGlobal inner → Ends scope base (isGlobal, inner))
    (hrest : Passes scope base inGlobal piece → LeadToEnds scope base inGlobal rest) :
    LeadToEnds scope base inGlobal (piece :: rest) := by
  intro before identifier after hsplit hbefore
  cases before with
  | nil => exact hpiece identifier (List.cons_eq_cons.mp hsplit).1
  | cons first before =>
      obtain ⟨rfl, hrestSplit⟩ := List.cons_eq_cons.mp hsplit
      exact hrest (hbefore piece List.mem_cons_self) before identifier after hrestSplit
        fun other hother => hbefore other (List.mem_cons_of_mem piece hother)

theorem ends {text : Text} (hpieces : LeadToEnds scope base inGlobal (Piece.ofText text)) :
    Ends scope base (inGlobal, text) := by
  refine Acc.intro _ fun place henters => ?_
  obtain ⟨before, identifier, after, hsplit, hbefore, hlead⟩ := henters
  exact hpieces before identifier after hsplit hbefore place.1 place.2 hlead

end LeadToEnds

theorem passes_of_done {scope : Scope} {base : Sources} {inGlobal : Bool} {identifier : Text}
    {found : Expanding Text} (hlead : scope.lead inGlobal identifier = .done found) :
    Passes scope base inGlobal (.hole identifier) ↔ (found.outcome base).1.isOk = true := by
  rw [Passes, hlead]

theorem passes_of_outcome {scope : Scope} {base sources after : Sources} {inGlobal : Bool}
    {identifier value : Text} {found : Expanding Text} (hmatch : Sources.Match base sources)
    (hlead : scope.lead inGlobal identifier = .done found)
    (hfound : found.outcome sources = (.ok value, after)) :
    Passes scope base inGlobal (.hole identifier) := by
  rw [passes_of_done hlead, ← (IsEven.of_lead hlead).isOk_eq base sources hmatch, hfound]
  rfl

theorem passes_of_text {scope : Scope} {base : Sources} {inGlobal isGlobal : Bool}
    {identifier inner : Text} (hlead : scope.lead inGlobal identifier = .text isGlobal inner) :
    Passes scope base inGlobal (.hole identifier) ↔ ∃ path sources value after,
      Sources.Match base sources ∧
        FillsFreely scope path isGlobal (Piece.ofText inner) sources (.ok value) after := by
  rw [Passes, hlead]

/-- Where filling comes to an end, all chains of texts that are entered are finite. -/
theorem FillsFreely.leadToEnds {scope : Scope} {base : Sources} {path : List Text}
    {inGlobal : Bool} {pieces : List Piece} {sources after : Sources} {result : Except Fault Text}
    (hfills : FillsFreely scope path inGlobal pieces sources result after)
    (hmatch : Sources.Match base sources) : LeadToEnds scope base inGlobal pieces := by
  induction hfills with
  | nil =>
      intro before identifier after hsplit
      exact absurd hsplit.symm (List.append_ne_nil_of_right_ne_nil before (List.cons_ne_nil _ _))
  | plain text _ ih => exact LeadToEnds.cons (fun _ heq => nomatch heq) fun _ => ih hmatch
  | done hlead hfound _ ih =>
      refine LeadToEnds.cons (fun other heq isGlobal inner htext => ?_) fun _ =>
        ih ((IsEven.of_lead hlead).match_of_outcome hmatch hfound)
      obtain rfl := Piece.hole.inj heq
      exact nomatch hlead.symm.trans htext
  | doneFails hlead hfound =>
      refine LeadToEnds.cons (fun other heq isGlobal inner htext => ?_) fun hpasses => ?_
      · obtain rfl := Piece.hole.inj heq
        exact nomatch hlead.symm.trans htext
      · -- a placeholder that fails is not passed, so nothing behind it is entered
        have hok := (IsEven.of_lead hlead).isOk_eq _ _ hmatch
        rw [hfound, (passes_of_done hlead).mp hpasses] at hok
        exact nomatch hok
  | text hlead hinner _ ihInner ih =>
      refine LeadToEnds.cons (fun other heq isGlobal inner htext => ?_) fun _ =>
        ih (FillsFreely.match_after hinner hmatch)
      obtain rfl := Piece.hole.inj heq
      obtain ⟨rfl, rfl⟩ := Lead.text.inj (hlead.symm.trans htext)
      exact (ihInner hmatch).ends
  | textFails hlead hinner ihInner =>
      refine LeadToEnds.cons (fun other heq isGlobal inner htext => ?_) fun hpasses => ?_
      · obtain rfl := Piece.hole.inj heq
        obtain ⟨rfl, rfl⟩ := Lead.text.inj (hlead.symm.trans htext)
        exact (ihInner hmatch).ends
      · obtain ⟨_, _, _, _, hotherMatch, hother⟩ := (passes_of_text hlead).mp hpasses
        exact nomatch FillsFreely.isOk_eq hinner hmatch hother hotherMatch

end HttpScript
