import HttpScript.Proofs.Placeholder.Termination
import Mathlib.Data.Finset.Card
import Mathlib.Data.Finset.Lattice.Basic

/-!
# What is seen from a global value

A text that comes from a global variable, from the environment or from an outcome is expanded in
global context, where local variables are not seen.  Two scopes that differ in their local variables
only are compared: in global context both give the same text or the same fault, and both leave the
same sources.

An expansion in global context stands somewhere inside another one, behind some path, so the path is
arbitrary here.  It need not be one that expansion can come to.  So the bound on the depth is found
anew: behind a path that repeats some placeholders only the others can still be met.
-/

namespace HttpScript

/-! ## Expansion behind any path -/

/-- Expands a text that stands behind the placeholders of a path, in a context. -/
def expandBehind (scope : Scope) (path : List Text) (inGlobal : Bool) (text : Text) :
    Expanding Text :=
  expandFrom scope ((scope.reachable text).length + 1) path inGlobal text

/-- How many placeholders can still be met behind a path. -/
def unmet (scope : Scope) (text : Text) (path : List Text) : Nat :=
  ((scope.reachable text).toFinset \ path.toFinset).card

theorem unmet_le_length (scope : Scope) (text : Text) (path : List Text) :
    unmet scope text path ≤ (scope.reachable text).length := by
  have hsubset := Finset.card_le_card
    (Finset.sdiff_subset (s := (scope.reachable text).toFinset) (t := path.toFinset))
  exact hsubset.trans (List.toFinset_card_le _)

/-- Behind one more placeholder there is one fewer to be met. -/
theorem unmet_append_lt {scope : Scope} {text identifier : Text} {path : List Text}
    (hreachable : identifier ∈ scope.reachable text) (hpath : identifier ∉ path) :
    unmet scope text (path ++ [identifier]) < unmet scope text path := by
  apply Finset.card_lt_card
  refine Finset.ssubset_iff_subset_ne.mpr ⟨fun other hother => ?_, fun heq => ?_⟩
  · simp only [Finset.mem_sdiff, List.mem_toFinset, List.mem_append, not_or] at hother ⊢
    exact ⟨hother.1, hother.2.1⟩
  · have hmem : identifier ∈ (scope.reachable text).toFinset \ path.toFinset := by
      simp [hreachable, hpath]
    rw [← heq] at hmem
    simp at hmem

theorem fills_expandFrom_of_unmet {scope : Scope} {text inner : Text} {path : List Text}
    {inGlobal : Bool} (hinner : inner ∈ text :: scope.texts) {fuel : Nat}
    (hfuel : unmet scope text path < fuel) (sources : Sources) :
    Fills scope.follow path inGlobal (Piece.ofText inner) sources
      ((expandFrom scope fuel path inGlobal inner).outcome sources).1
      ((expandFrom scope fuel path inGlobal inner).outcome sources).2 := by
  induction fuel generalizing path inGlobal inner sources with
  | zero => omega
  | succ fuel ih =>
      rw [expandFrom]
      refine fills_fillPieces (fun identifier hmem => ?_) sources
      unfold Agrees
      cases hfollow : scope.follow path inGlobal identifier with
      | done found => rfl
      | text isGlobal value =>
          obtain ⟨hpath, hlead⟩ := Scope.follow_eq_text hfollow
          have hreachable : identifier ∈ scope.reachable text :=
            List.mem_flatMap.mpr ⟨inner, hinner, mem_placeholders hmem⟩
          have hroom := unmet_append_lt hreachable hpath
          exact ih (List.mem_cons_of_mem text (Scope.mem_texts_of_lead hlead)) (by omega)

/-- Every bound that leaves room for all placeholders gives what filling without a bound gives. -/
theorem fills_iff_of_length_lt {scope : Scope} {path : List Text} {inGlobal : Bool} {text : Text}
    {fuel : Nat} (hfuel : (scope.reachable text).length < fuel) {sources after : Sources}
    {result : Except Fault Text} :
    Fills scope.follow path inGlobal (Piece.ofText text) sources result after ↔
      (expandFrom scope fuel path inGlobal text).outcome sources = (result, after) := by
  have hroom : unmet scope text path < fuel := (unmet_le_length scope text path).trans_lt hfuel
  have hfills : Fills scope.follow path inGlobal (Piece.ofText text) sources
      ((expandFrom scope fuel path inGlobal text).outcome sources).1
      ((expandFrom scope fuel path inGlobal text).outcome sources).2 :=
    fills_expandFrom_of_unmet List.mem_cons_self hroom sources
  constructor
  · intro hother
    obtain ⟨hresult, hafter⟩ := hfills.unique hother
    exact Prod.ext hresult.symm hafter.symm
  · intro houtcome
    rw [houtcome] at hfills
    exact hfills

theorem fills_iff_expandBehind {scope : Scope} {path : List Text} {inGlobal : Bool} {text : Text}
    {sources after : Sources} {result : Except Fault Text} :
    Fills scope.follow path inGlobal (Piece.ofText text) sources result after ↔
      (expandBehind scope path inGlobal text).outcome sources = (result, after) :=
  fills_iff_of_length_lt (Nat.lt_succ_self _)

theorem fills_expandBehind (scope : Scope) (path : List Text) (inGlobal : Bool) (text : Text)
    (sources : Sources) :
    Fills scope.follow path inGlobal (Piece.ofText text) sources
      ((expandBehind scope path inGlobal text).outcome sources).1
      ((expandBehind scope path inGlobal text).outcome sources).2 :=
  fills_iff_expandBehind.mpr rfl

/-! ## Two scopes with different local variables -/

section Locals

variable (scope : Scope) (locals : Table Variable)

/-- No local variable has a say in what a placeholder leads to in global context. -/
theorem follow_true_locals (path : List Text) (identifier : Text) :
    ({ scope with locals } : Scope).follow path true identifier =
      scope.follow path true identifier :=
  rfl

theorem expandFrom_true_locals (fuel : Nat) (path : List Text) (text : Text) :
    expandFrom { scope with locals } fuel path true text = expandFrom scope fuel path true text := by
  induction fuel generalizing path text with
  | zero => rfl
  | succ fuel ih =>
      rw [expandFrom, expandFrom]
      refine fillPieces_congr fun identifier _ => ?_
      rw [follow_true_locals]
      cases hfollow : scope.follow path true identifier with
      | done found => rfl
      | text isGlobal value =>
          -- the flag is never reset: what is found in global context is expanded in global context
          obtain rfl := Scope.isGlobal_of_lead (Scope.follow_eq_text hfollow).2
          exact ih (path ++ [identifier]) value

theorem fills_true_locals {path : List Text} {text : Text} {sources after : Sources}
    {result : Except Fault Text} :
    Fills ({ scope with locals } : Scope).follow path true (Piece.ofText text) sources result
        after ↔
      Fills scope.follow path true (Piece.ofText text) sources result after := by
  let other : Scope := { scope with locals }
  -- one bound that leaves room in both scopes
  obtain ⟨fuel, hfirst, hsecond⟩ : ∃ fuel, (scope.reachable text).length < fuel ∧
      (other.reachable text).length < fuel :=
    ⟨(scope.reachable text).length + (other.reachable text).length + 1, by omega, by omega⟩
  rw [fills_iff_of_length_lt hsecond, fills_iff_of_length_lt hfirst, expandFrom_true_locals]

theorem expandBehind_true_eq (path : List Text) (text : Text) :
    expandBehind { scope with locals } path true text = expandBehind scope path true text := by
  refine funext fun sources => ?_
  exact (fills_iff_expandBehind.mp ((fills_true_locals scope locals).mp
    (fills_iff_expandBehind.mpr rfl))).symm

/-- In global context local variables make no difference, behind whatever path: expansion gives the
same text or the same fault and leaves the same sources, and this is what filling without any bound
gives in either scope. -/
theorem expandBehind_true_locals (path : List Text) (text : Text) :
    expandBehind { scope with locals } path true text = expandBehind scope path true text ∧
      ∀ sources result after,
        Fills ({ scope with locals } : Scope).follow path true (Piece.ofText text) sources result
            after ↔
          (expandBehind scope path true text).outcome sources = (result, after) :=
  ⟨expandBehind_true_eq scope locals path text, fun _ _ _ =>
    (fills_true_locals scope locals).trans fills_iff_expandBehind⟩

end Locals

end HttpScript
