import HttpScript.Proofs.Placeholder.Filling
import HttpScript.Proofs.Placeholder.Texts
import Mathlib.Data.List.Dedup
import Mathlib.Data.List.Perm.Subperm

/-!
# Expansion comes to an end

Each expansion inside another one has a path: the placeholders on the way to it.  No placeholder is
on a path twice, because it would have been reported as a cycle, and all of them are written in the
text or in the scope.  So a path cannot be longer than there are such placeholders, the bound that
`expand` works with is never reached, and what `expand` gives is what filling without any bound
gives.

References that go round for ever are never filled: whatever is filled with a text has only finite
chains of references.
-/

namespace HttpScript

/-! ## What a placeholder leads to behind a path -/

namespace Scope

variable {scope : Scope} {path : List Text} {inGlobal isGlobal : Bool} {identifier value : Text}

/-- A placeholder that leads to a text does not repeat one of the path. -/
theorem follow_eq_text (hfollow : scope.follow path inGlobal identifier = .text isGlobal value) :
    identifier ∉ path ∧ scope.lead inGlobal identifier = .text isGlobal value := by
  unfold follow at hfollow
  split at hfollow
  · exact nomatch hfollow
  · next hguard =>
      refine ⟨fun hmem => hguard ?_, hfollow⟩
      rw [(lead_eq_text_iff.mp hfollow).1, List.contains_iff_mem.mpr hmem]
      rfl

end Scope

/-! ## The expansions inside an expansion -/

/-- The expansions that may be entered when a text is expanded: their path, their context and the
text to be expanded. -/
inductive Visited (scope : Scope) (text : Text) : List Text → Bool → Text → Prop
  | start : Visited scope text [] false text
  | nested {path inGlobal outer identifier isGlobal inner}
      (houter : Visited scope text path inGlobal outer)
      (hidentifier : identifier ∈ placeholders outer)
      (hfollow : scope.follow path inGlobal identifier = .text isGlobal inner) :
      Visited scope text (path ++ [identifier]) isGlobal inner

namespace Visited

variable {scope : Scope} {text inner : Text} {path : List Text} {inGlobal : Bool}

theorem text_mem (hvisited : Visited scope text path inGlobal inner) :
    inner ∈ text :: scope.texts := by
  cases hvisited with
  | start => exact List.mem_cons_self
  | nested _ _ hfollow =>
      exact List.mem_cons_of_mem text (Scope.mem_texts_of_lead (Scope.follow_eq_text hfollow).2)

theorem placeholders_subset (hvisited : Visited scope text path inGlobal inner) :
    placeholders inner ⊆ scope.reachable text :=
  fun _ hidentifier => List.mem_flatMap.mpr ⟨inner, hvisited.text_mem, hidentifier⟩

theorem nodup (hvisited : Visited scope text path inGlobal inner) : path.Nodup := by
  induction hvisited with
  | start => exact List.nodup_nil
  | nested _ _ hfollow ih =>
      rw [List.nodup_append_comm, List.singleton_append, List.nodup_cons]
      exact ⟨(Scope.follow_eq_text hfollow).1, ih⟩

theorem path_subset (hvisited : Visited scope text path inGlobal inner) :
    path ⊆ scope.reachable text := by
  induction hvisited with
  | start => exact List.nil_subset _
  | nested houter hidentifier _ ih =>
      refine List.append_subset.mpr ⟨ih, fun other hother => ?_⟩
      rw [List.mem_singleton.mp hother]
      exact houter.placeholders_subset hidentifier

theorem length_le (hvisited : Visited scope text path inGlobal inner) :
    path.length ≤ (scope.reachable text).dedup.length := by
  have hsubset : path ⊆ (scope.reachable text).dedup :=
    fun _ hmem => List.mem_dedup.mpr (hvisited.path_subset hmem)
  exact (List.subperm_of_subset hvisited.nodup hsubset).length_le

end Visited

/-! ## The bound is never reached -/

theorem mem_placeholders {identifier text : Text} (hmem : .hole identifier ∈ Piece.ofText text) :
    identifier ∈ placeholders text :=
  List.mem_filterMap.mpr ⟨_, hmem, rfl⟩

theorem hole_mem_ofText {identifier text : Text} (hmem : identifier ∈ placeholders text) :
    .hole identifier ∈ Piece.ofText text := by
  obtain ⟨piece, hpiece, hfound⟩ := List.mem_filterMap.mp hmem
  cases piece with
  | plain text => exact nomatch hfound
  | hole other =>
      obtain rfl := Option.some.inj hfound
      exact hpiece

/-- Two bounds that leave room for all placeholders make no difference. -/
theorem expandFrom_eq_of_lt {scope : Scope} {text inner : Text} {path : List Text}
    {inGlobal : Bool} (hvisited : Visited scope text path inGlobal inner) {fuel other : Nat}
    (hfuel : (scope.reachable text).dedup.length < fuel + path.length)
    (hother : (scope.reachable text).dedup.length < other + path.length) :
    expandFrom scope fuel path inGlobal inner = expandFrom scope other path inGlobal inner := by
  have hlength := hvisited.length_le
  induction fuel generalizing path inGlobal inner other with
  | zero => omega
  | succ fuel ih =>
      cases other with
      | zero => omega
      | succ other =>
          rw [expandFrom, expandFrom]
          refine fillPieces_congr fun identifier hmem => ?_
          cases hfollow : scope.follow path inGlobal identifier with
          | done found => rfl
          | text isGlobal value =>
              have hnested := hvisited.nested (mem_placeholders hmem) hfollow
              have hpath : (path ++ [identifier]).length = path.length + 1 :=
                List.length_append
              exact ih hnested (by omega) (by omega) hnested.length_le

theorem fills_expandFrom {scope : Scope} {text inner : Text} {path : List Text} {inGlobal : Bool}
    (hvisited : Visited scope text path inGlobal inner) {fuel : Nat}
    (hfuel : (scope.reachable text).dedup.length < fuel + path.length) (sources : Sources) :
    Fills scope.follow path inGlobal (Piece.ofText inner) sources
      ((expandFrom scope fuel path inGlobal inner).outcome sources).1
      ((expandFrom scope fuel path inGlobal inner).outcome sources).2 := by
  induction fuel generalizing path inGlobal inner sources with
  | zero =>
      -- the path would be longer than there are placeholders
      have hlength := hvisited.length_le
      omega
  | succ fuel ih =>
      rw [expandFrom]
      refine fills_fillPieces (fun identifier hmem => ?_) sources
      unfold Agrees
      cases hfollow : scope.follow path inGlobal identifier with
      | done found => rfl
      | text isGlobal value =>
          apply ih (hvisited.nested (mem_placeholders hmem) hfollow)
          rw [List.length_append, List.length_singleton]
          omega

theorem fills_expand (scope : Scope) (text : Text) (sources : Sources) :
    Fills scope.follow [] false (Piece.ofText text) sources
      ((expand scope text).outcome sources).1 ((expand scope text).outcome sources).2 := by
  refine fills_expandFrom .start ?_ sources
  have hdedup := (List.dedup_sublist (scope.reachable text)).length_le
  omega

/-! ## References that go round -/

/-- A text in a context refers to what one of its placeholders leads to. -/
def Refers (scope : Scope) (outer inner : Bool × Text) : Prop :=
  ∃ identifier ∈ placeholders outer.2,
    scope.lead outer.1 identifier = .text inner.1 inner.2

/-- All chains of references from a text in a context are finite. -/
abbrev Grounded (scope : Scope) (place : Bool × Text) : Prop :=
  Acc (fun inner outer => Refers scope outer inner) place

/-- Every text that one of the pieces leads to is grounded. -/
def LeadToGrounded (scope : Scope) (inGlobal : Bool) (pieces : List Piece) : Prop :=
  ∀ identifier, .hole identifier ∈ pieces → ∀ isGlobal value,
    scope.lead inGlobal identifier = .text isGlobal value → Grounded scope (isGlobal, value)

theorem LeadToGrounded.cons {scope : Scope} {inGlobal : Bool} {rest : List Piece}
    (hrest : LeadToGrounded scope inGlobal rest) {identifier : Text}
    (hidentifier : ∀ isGlobal value, scope.lead inGlobal identifier = .text isGlobal value →
      Grounded scope (isGlobal, value)) :
    LeadToGrounded scope inGlobal (.hole identifier :: rest) := by
  intro other hother isGlobal value hlead
  rcases List.mem_cons.mp hother with heq | hother
  · obtain rfl := Piece.hole.inj heq
    exact hidentifier isGlobal value hlead
  · exact hrest other hother isGlobal value hlead

theorem LeadToGrounded.grounded {scope : Scope} {inGlobal : Bool} {text : Text}
    (hpieces : LeadToGrounded scope inGlobal (Piece.ofText text)) :
    Grounded scope (inGlobal, text) := by
  refine Acc.intro _ fun place hrefers => ?_
  obtain ⟨identifier, hidentifier, hlead⟩ := hrefers
  exact hpieces identifier (hole_mem_ofText hidentifier) place.1 place.2 hlead

/-- What is filled with a text leads to grounded texts only. -/
theorem leadToGrounded_of_fills {scope : Scope} {path : List Text} {inGlobal : Bool}
    {pieces : List Piece} {sources after : Sources} {result : Except Fault Text}
    (hfills : Fills scope.follow path inGlobal pieces sources result after) {filled : Text}
    (hfilled : result = .ok filled) : LeadToGrounded scope inGlobal pieces := by
  induction hfills generalizing filled with
  | nil => exact nofun
  | @plain path inGlobal rest sources result after text hrest ih =>
      cases result with
      | error fault => exact nomatch hfilled
      | ok value =>
          intro identifier hidentifier
          rcases List.mem_cons.mp hidentifier with heq | hidentifier
          · exact nomatch heq
          · exact ih rfl identifier hidentifier
  | @done path inGlobal identifier rest sources found value between result after hlead hfound
      _ ih =>
      cases result with
      | error fault => exact nomatch hfilled
      | ok filled =>
          refine (ih rfl).cons fun isGlobal inner htext => ?_
          unfold Scope.follow at hlead
          split at hlead
          · -- a placeholder that is repeated gives no text
            rw [← Lead.done.inj hlead] at hfound
            exact nomatch (Prod.mk.inj hfound).1
          · rw [htext] at hlead
            exact nomatch hlead
  | doneFails => exact nomatch hfilled
  | @text path inGlobal identifier rest sources isGlobal inner value between result after hlead
      _ _ ihInner ih =>
      cases result with
      | error fault => exact nomatch hfilled
      | ok filled =>
          refine (ih rfl).cons fun global found htext => ?_
          rw [(Scope.follow_eq_text hlead).2] at htext
          obtain ⟨rfl, rfl⟩ := Lead.text.inj htext
          exact (ihInner rfl).grounded
  | textFails => exact nomatch hfilled

theorem not_chain_of_grounded {scope : Scope} {place : Bool × Text}
    (hgrounded : Grounded scope place) (chain : Nat → Bool × Text) (hstart : chain 0 = place)
    (hchain : ∀ n, Refers scope (chain n) (chain (n + 1))) : False := by
  induction hgrounded generalizing chain with
  | intro place _ ih =>
      refine ih (chain 1) ?_ (fun n => chain (n + 1)) rfl fun n => hchain (n + 1)
      rw [← hstart]
      exact hchain 0

/-- Expansion always comes to an end.  On the path of any expansion inside it no placeholder occurs
twice, all of them are written in the text or in the scope, and there are no more of them than that.
So every bound that is greater gives the same.  What comes out is what filling without a bound gives,
and it is no text if the references go round for ever. -/
theorem expand_ends (scope : Scope) (text : Text) :
    (∀ path inGlobal inner, Visited scope text path inGlobal inner →
      path.Nodup ∧ path ⊆ scope.reachable text ∧
        path.length ≤ (scope.reachable text).dedup.length) ∧
    (∀ fuel, (scope.reachable text).dedup.length < fuel →
      expandFrom scope fuel [] false text = expand scope text) ∧
    (∀ sources, ∃ result after, (expand scope text).outcome sources = (result, after) ∧
      Fills scope.follow [] false (Piece.ofText text) sources result after) ∧
    (∀ chain : Nat → Bool × Text, chain 0 = (false, text) →
      (∀ n, Refers scope (chain n) (chain (n + 1))) →
        ∀ sources filled, ((expand scope text).outcome sources).1 ≠ .ok filled) := by
  refine ⟨fun path inGlobal inner hvisited =>
    ⟨hvisited.nodup, hvisited.path_subset, hvisited.length_le⟩,
    fun fuel hfuel => expandFrom_eq_of_lt .start hfuel ?_,
    fun sources => ⟨_, _, rfl, fills_expand scope text sources⟩,
    fun chain hstart hchain sources filled hfilled => ?_⟩
  · exact Nat.lt_succ_of_le (List.dedup_sublist (scope.reachable text)).length_le
  · have hgrounded : LeadToGrounded scope false (Piece.ofText text) :=
      leadToGrounded_of_fills (fills_expand scope text sources) hfilled
    exact not_chain_of_grounded hgrounded.grounded chain hstart hchain

/-- Two variables that refer to each other give no text. -/
theorem expand_ends_mutual :
    let scope : Scope :=
      { env := [], globals := [], outcomes := []
        locals := [("a", ⟨some "\x7b\x7bb\x7d\x7d", false⟩),
          ("b", ⟨some "\x7b\x7ba\x7d\x7d", false⟩)] }
    ∀ sources filled, ((expand scope "\x7b\x7ba\x7d\x7d").outcome sources).1 ≠ .ok filled := by
  intro scope
  let chain (n : Nat) : Bool × Text :=
    (false, if n % 2 = 0 then "\x7b\x7ba\x7d\x7d" else "\x7b\x7bb\x7d\x7d")
  refine (expand_ends scope _).2.2.2 chain rfl fun n => ?_
  rcases Nat.mod_two_eq_zero_or_one n with heven | hodd
  · have hnext : (n + 1) % 2 = 1 := by omega
    refine ⟨"a", ?_, ?_⟩
    · simp only [chain, heven]
      decide
    · simp only [chain, hnext]
      rfl
  · have hnext : (n + 1) % 2 = 0 := by omega
    refine ⟨"b", ?_, ?_⟩
    · simp only [chain, hodd]
      decide
    · simp only [chain, hnext]
      rfl

end HttpScript
