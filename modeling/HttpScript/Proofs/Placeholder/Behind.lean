import HttpScript.Proofs.Placeholder.Chains
import HttpScript.Proofs.Placeholder.Visibility

/-!
# Expansion behind further placeholders

A text is expanded on its own, and once more behind a path of placeholders.  Both expansions enter
the same texts in the same order until the second one meets a placeholder of the path, which it
reports as a cycle.  If it meets none, it gives what the first one gives, but for a cycle: that one
is reported with the whole path (`expandBehind_eq_or`).

A path in global context that leads to the text cannot be met again where the text is filled.  The
references would go round, and such a text is not filled.
-/

namespace HttpScript

/-- A fault as it is reported behind a path: the path of a cycle begins with it. -/
def Fault.behind (before : List Text) : Fault → Fault
  | .problem (.cycle path) => .problem (.cycle (before ++ path))
  | fault => fault

/-! ## Chains that go round -/

namespace Chain

variable {scope : Scope} {inGlobal lastGlobal : Bool} {text inner : Text} {path : List Text}

theorem append {middleGlobal : Bool} {middle : Text} {further : List Text}
    (hchain : Chain scope inGlobal text path middleGlobal middle)
    (hfurther : Chain scope middleGlobal middle further lastGlobal inner) :
    Chain scope inGlobal text (path ++ further) lastGlobal inner := by
  induction hchain with
  | nil => exact hfurther
  | cons hidentifier hcall hlookup _ ih => exact .cons hidentifier hcall hlookup (ih hfurther)

theorem snoc_of_lead {isGlobal : Bool} {identifier value : Text}
    (hchain : Chain scope inGlobal text path lastGlobal inner)
    (hidentifier : identifier ∈ placeholders inner)
    (hlead : scope.lead lastGlobal identifier = .text isGlobal value) :
    Chain scope inGlobal text (path ++ [identifier]) isGlobal value :=
  hchain.snoc hidentifier (Scope.lead_eq_text_iff.mp hlead).1 (Scope.lead_eq_text_iff.mp hlead).2

theorem lastGlobal_eq (hchain : Chain scope true text path lastGlobal inner) :
    lastGlobal = true := by
  induction path generalizing text with
  | nil => cases hchain; rfl
  | cons first rest ih =>
      cases hchain with
      | cons _ hcall hlookup hrest =>
          rw [Scope.isGlobal_of_lead (Scope.lead_eq_text_iff.mpr ⟨hcall, hlookup⟩)] at hrest
          exact ih hrest

/-- What a chain in global context leads to is reached from each of its identifiers. -/
theorem exists_of_mem {identifier : Text} (hchain : Chain scope true text path true inner)
    (hmem : identifier ∈ path) :
    ∃ value further, scope.lead true identifier = .text true value ∧
      Chain scope true value further true inner := by
  induction path generalizing text with
  | nil => exact nomatch hmem
  | cons first rest ih =>
      cases hchain with
      | @cons _ _ _ isGlobal value _ _ _ _ hcall hlookup hrest =>
          have hlead := Scope.lead_eq_text_iff.mpr ⟨hcall, hlookup⟩
          obtain rfl : isGlobal = true := Scope.isGlobal_of_lead hlead
          rcases List.mem_cons.mp hmem with rfl | hmem
          · exact ⟨value, rest, hlead, hrest⟩
          · exact ih hrest hmem

/-- A grounded text does not lead back to itself. -/
theorem not_loop {place : Bool × Text} (hgrounded : Grounded scope place)
    (hchain : Chain scope place.1 place.2 path place.1 place.2) (hpath : path ≠ []) : False := by
  induction hgrounded generalizing path with
  | intro place _ ih =>
      cases hchain with
      | nil => exact hpath rfl
      | @cons _ _ identifier isGlobal value _ _ _ hidentifier hcall hlookup hrest =>
          have hrefers : Refers scope place (isGlobal, value) :=
            ⟨identifier, hidentifier, Scope.lead_eq_text_iff.mpr ⟨hcall, hlookup⟩⟩
          exact ih _ hrefers (hrest.snoc hidentifier hcall hlookup) (List.concat_ne_nil _ _)

end Chain

/-! ## Side by side -/

namespace Scope

/-- What a placeholder leads to behind further ones: the same, unless it repeats one of its own path
or one of those. -/
theorem follow_append (scope : Scope) (before path : List Text) (inGlobal : Bool)
    (identifier : Text) :
    scope.follow (before ++ path) inGlobal identifier = scope.follow path inGlobal identifier ∧
        scope.follow path inGlobal identifier = scope.lead inGlobal identifier ∨
      scope.follow (before ++ path) inGlobal identifier =
          .done (throw (.problem (.cycle (before ++ (path ++ [identifier]))))) ∧
        (scope.follow path inGlobal identifier =
            .done (throw (.problem (.cycle (path ++ [identifier])))) ∨
          identifier ∈ before) := by
  cases hcall : isCall identifier with
  | true => exact .inl (by simp [follow, hcall])
  | false =>
      by_cases hpath : identifier ∈ path
      · exact .inr (by simp [follow, hcall, hpath])
      by_cases hbefore : identifier ∈ before
      · exact .inr (by simp [follow, hcall, hbefore])
      · exact .inl (by simp [follow, hcall, hpath, hbefore])

end Scope

theorem mapError_map {Problem Other α β : Type} (result : Except Problem α) (f : α → β)
    (g : Problem → Other) : (result.map f).mapError g = (result.mapError g).map f := by
  cases result <;> rfl

/-- Only a cycle is reported with a path. -/
theorem LeadFault.behind_eq {scope : Scope} {inGlobal : Bool} {identifier : Text} {fault : Fault}
    (hfault : LeadFault scope inGlobal identifier fault) (before : List Text) :
    fault.behind before = fault := by
  unfold Fault.behind
  split
  · exact absurd hfault LeadFault.not_cycle
  · rfl

/-- A chain from a text leads back to a placeholder of the path before it, which is reported. -/
def ClosesCycle (scope : Scope) (before : List Text) (inGlobal : Bool) (text : Text)
    (fault : Fault) : Prop :=
  ∃ further last lastGlobal met, last ∈ before ∧
    Chain scope inGlobal text further lastGlobal met ∧ last ∈ placeholders met ∧
    fault = .problem (.cycle (before ++ (further ++ [last])))

/-- What pieces are filled with behind further placeholders: with the same as without them, or one of
those is met again at the end of a chain from the text that everything began with. -/
inductive FillsBehind (scope : Scope) (before : List Text) (startGlobal : Bool) (start : Text)
    (path : List Text) (inGlobal : Bool) (pieces : List Piece) (sources : Sources)
    (result : Except Fault Text) (after : Sources) : Prop
  | same (hfills : Fills scope.follow (before ++ path) inGlobal pieces sources
      (result.mapError (Fault.behind before)) after)
  | closes {fault : Fault} {otherAfter : Sources}
      (hcloses : ClosesCycle scope before startGlobal start fault)
      (hfills : Fills scope.follow (before ++ path) inGlobal pieces sources (.error fault)
        otherAfter)

namespace FillsBehind

variable {scope : Scope} {startGlobal inGlobal : Bool} {start outer identifier : Text}
  {before path : List Text} {pieces rest : List Piece} {sources between after : Sources}
  {result : Except Fault Text}

/-- Text in front of what is filled changes nothing about where a cycle is closed. -/
theorem of_rest {value : Text}
    (hrest : FillsBehind scope before startGlobal start path inGlobal rest between result after)
    (hfront : ∀ {other left}, Fills scope.follow (before ++ path) inGlobal rest between other left →
      Fills scope.follow (before ++ path) inGlobal pieces sources (other.map (value ++ ·)) left) :
    FillsBehind scope before startGlobal start path inGlobal pieces sources
      (result.map (value ++ ·)) after := by
  cases hrest with
  | same hfills =>
      refine .same ?_
      rw [mapError_map]
      exact hfront hfills
  | closes hcloses hfills => exact .closes hcloses (hfront hfills)

/-- Only a placeholder that leads on matters: one that repeats the path fails in both places. -/
theorem of_hole (hchain : Chain scope startGlobal start path inGlobal outer)
    (hidentifier : identifier ∈ placeholders outer)
    (hfills : Fills scope.follow path inGlobal (.hole identifier :: rest) sources result after)
    (hleads : scope.follow (before ++ path) inGlobal identifier =
        scope.follow path inGlobal identifier →
      scope.follow path inGlobal identifier = scope.lead inGlobal identifier →
      FillsBehind scope before startGlobal start path inGlobal (.hole identifier :: rest) sources
        result after) :
    FillsBehind scope before startGlobal start path inGlobal (.hole identifier :: rest) sources
      result after := by
  rcases scope.follow_append before path inGlobal identifier with ⟨hsame, hlead⟩ |
    ⟨hcycle, hown | hmem⟩
  · exact hleads hsame hlead
  · rcases Fills.of_done hown hfills with ⟨_, _, _, hfound, -⟩ | ⟨fault, hfound, rfl⟩
    · cases (Prod.mk.inj hfound).1
    · obtain ⟨hfault, rfl⟩ := Prod.mk.inj hfound
      rw [← Except.error.inj hfault]
      exact .same (.doneFails hcycle rfl)
  · exact .closes ⟨path, identifier, inGlobal, outer, hmem, hchain, hidentifier, rfl⟩
      (.doneFails hcycle rfl)

end FillsBehind

/-- Whatever is filled is filled behind further placeholders, too, if it belongs to a text that a
chain leads to. -/
theorem Fills.behind {scope : Scope} {startGlobal inGlobal : Bool} {start outer : Text}
    {path : List Text} {pieces : List Piece} {sources after : Sources} {result : Except Fault Text}
    (hfills : Fills scope.follow path inGlobal pieces sources result after) (before : List Text)
    (hchain : Chain scope startGlobal start path inGlobal outer)
    (hpieces : ∀ identifier, .hole identifier ∈ pieces → identifier ∈ placeholders outer) :
    FillsBehind scope before startGlobal start path inGlobal pieces sources result after := by
  induction hfills generalizing outer with
  | nil => exact .same .nil
  | plain text _ ih =>
      have hrest := ih hchain fun other hmem => hpieces other (List.mem_cons_of_mem _ hmem)
      exact hrest.of_rest (.plain text)
  | done hfollow hfound hfills ih =>
      refine .of_hole hchain (hpieces _ List.mem_cons_self) (.done hfollow hfound hfills)
        fun hsame _ => ?_
      have hrest := ih hchain fun other hmem => hpieces other (List.mem_cons_of_mem _ hmem)
      exact hrest.of_rest (.done (hsame.trans hfollow) hfound)
  | @doneFails _ _ _ _ _ _ fault _ hfollow hfound =>
      refine .of_hole hchain (hpieces _ List.mem_cons_self) (.doneFails hfollow hfound)
        fun hsame hlead => .same ?_
      have hfault := Scope.leadFault_of_outcome (hlead.symm.trans hfollow) hfound
      rw [Except.mapError, hfault.behind_eq before]
      exact .doneFails (hsame.trans hfollow) hfound
  | text hfollow hinner hfills ihInner ih =>
      refine .of_hole hchain (hpieces _ List.mem_cons_self) (.text hfollow hinner hfills)
        fun hsame hlead => ?_
      have hentered := hchain.snoc_of_lead (hpieces _ List.mem_cons_self)
        (hlead.symm.trans hfollow)
      cases ihInner hentered fun _ hmem => mem_placeholders hmem with
      | same hinner =>
          rw [← List.append_assoc] at hinner
          have hrest := ih hchain fun other hmem => hpieces other (List.mem_cons_of_mem _ hmem)
          exact hrest.of_rest (.text (hsame.trans hfollow) hinner)
      | closes hcloses hinner =>
          rw [← List.append_assoc] at hinner
          exact .closes hcloses (.textFails (hsame.trans hfollow) hinner)
  | textFails hfollow hinner ihInner =>
      refine .of_hole hchain (hpieces _ List.mem_cons_self) (.textFails hfollow hinner)
        fun hsame hlead => ?_
      have hentered := hchain.snoc_of_lead (hpieces _ List.mem_cons_self)
        (hlead.symm.trans hfollow)
      cases ihInner hentered fun _ hmem => mem_placeholders hmem with
      | same hinner =>
          rw [← List.append_assoc] at hinner
          exact .same (.textFails (hsame.trans hfollow) hinner)
      | closes hcloses hinner =>
          rw [← List.append_assoc] at hinner
          exact .closes hcloses (.textFails (hsame.trans hfollow) hinner)

/-! ## Expansion behind a path -/

/-- Behind a path a text is expanded to the same, and the path of a cycle is longer, unless a
placeholder of the path is met again. -/
theorem expandBehind_eq_or (scope : Scope) (before : List Text) (inGlobal : Bool) (text : Text)
    (sources : Sources) :
    (expandBehind scope before inGlobal text).outcome sources =
        (((expandBehind scope [] inGlobal text).outcome sources).1.mapError (Fault.behind before),
          ((expandBehind scope [] inGlobal text).outcome sources).2) ∨
      ∃ fault, ClosesCycle scope before inGlobal text fault ∧
        ((expandBehind scope before inGlobal text).outcome sources).1 = .error fault := by
  have hother := fills_expandBehind scope before inGlobal text sources
  have hbehind := (fills_expandBehind scope [] inGlobal text sources).behind before .nil
    fun _ hmem => mem_placeholders hmem
  cases hbehind with
  | same hfills =>
      rw [List.append_nil] at hfills
      obtain ⟨hresult, hafter⟩ := hfills.unique hother
      exact .inl (Prod.ext hresult hafter)
  | @closes fault _ hcloses hfills =>
      rw [List.append_nil] at hfills
      exact .inr ⟨fault, hcloses, (hfills.unique hother).1⟩

/-- A text that is filled does not lead back to a path that leads to it. -/
theorem not_closesCycle_of_ok {scope : Scope} {outer text inner value : Text} {before : List Text}
    {sources : Sources} {fault : Fault} (hinside : Chain scope true outer before true inner)
    (hpart : placeholders text ⊆ placeholders inner)
    (hok : ((expandBehind scope [] true text).outcome sources).1 = .ok value) :
    ¬ ClosesCycle scope before true text fault := by
  rintro ⟨further, last, lastGlobal, met, hmem, hchain, hlast, -⟩
  have hgrounded : Grounded scope (true, text) :=
    (leadToGrounded_of_fills (fills_expandBehind scope [] true text sources) hok).grounded
  obtain ⟨again, between, hlead, hback⟩ := hinside.exists_of_mem hmem
  rw [hchain.lastGlobal_eq] at hchain
  have hround : Chain scope true text (further ++ [last]) true again :=
    hchain.snoc_of_lead hlast hlead
  obtain ⟨first, rest, hfirst⟩ := List.exists_cons_of_ne_nil (List.concat_ne_nil last further)
  rw [hfirst] at hround
  cases hround with
  | @cons _ _ _ isGlobal start _ _ _ hfirst hcall hlookup hrest =>
      have hstart : Grounded scope (isGlobal, start) :=
        hgrounded.inv ⟨first, hfirst, Scope.lead_eq_text_iff.mpr ⟨hcall, hlookup⟩⟩
      -- on the way round the text is passed as a part of the one that the path leads to
      have hloop := (hrest.append hback).snoc (hpart hfirst) hcall hlookup
      exact Chain.not_loop hstart hloop (List.concat_ne_nil _ _)

/-- Where a path in global context leads to a text, a part of that text is filled there just when it
is filled on its own, with the same text, and the same sources are left. -/
theorem expandBehind_eq_ok_iff {scope : Scope} {outer text inner : Text} {before : List Text}
    (hinside : Chain scope true outer before true inner)
    (hpart : placeholders text ⊆ placeholders inner) {sources after : Sources} {value : Text} :
    (expandBehind scope before true text).outcome sources = (.ok value, after) ↔
      (expandBehind scope [] true text).outcome sources = (.ok value, after) := by
  rcases expandBehind_eq_or scope before true text sources with hsame | ⟨fault, hcloses, hfault⟩
  · rw [hsame]
    rcases (expandBehind scope [] true text).outcome sources with ⟨fault | found, left⟩
    · constructor <;> exact fun heq => nomatch (Prod.mk.inj heq).1
    · exact Iff.rfl
  · constructor
    · intro heq
      rw [heq] at hfault
      cases hfault
    · intro heq
      have hok := congrArg Prod.fst heq
      exact absurd hcloses (not_closesCycle_of_ok hinside hpart hok)

end HttpScript
