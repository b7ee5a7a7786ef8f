import HttpScript.Placeholder.Expansion
import HttpScript.Proofs.Threaded

/-!
# Filling without a bound

What it means for the placeholders of a text to be filled, as a relation that knows no bound on the
depth: a derivation exists just when filling comes to an end.  What placeholders lead to is a
parameter, so that expansion with the check for cycles and expansion without it are two instances.
-/

namespace HttpScript

/-! ## Computations that may use up sources -/

/-- What a computation gives, and what it leaves of the sources. -/
def Expanding.outcome {α : Type} (computation : Expanding α) (sources : Sources) :
    Except Fault α × Sources :=
  computation.run.run sources

namespace Expanding

variable {α β : Type} (computation : Expanding α) (sources : Sources)

theorem outcome_bind (next : α → Expanding β) :
    outcome (computation >>= next) sources =
      match outcome computation sources with
      | (.ok value, after) => outcome (next value) after
      | (.error fault, after) => (.error fault, after) := by
  unfold outcome
  rw [Threaded.run_bind]
  rcases computation.run.run sources with ⟨_ | value, after⟩ <;> rfl

theorem outcome_bind_eq_error {computation : Expanding α} {sources : Sources}
    {next : α → Expanding β} {fault : Fault}
    (hfault : (outcome (computation >>= next) sources).1 = .error fault) :
    (outcome computation sources).1 = .error fault ∨
      ∃ value after, outcome computation sources = (.ok value, after) ∧
        (outcome (next value) after).1 = .error fault := by
  rw [outcome_bind] at hfault
  rcases houtcome : outcome computation sources with ⟨other | value, after⟩
  · rw [houtcome] at hfault
    exact .inl (congrArg Except.error (Except.error.inj hfault))
  · rw [houtcome] at hfault
    exact .inr ⟨value, after, rfl, hfault⟩

theorem outcome_bind_eq_ok {computation : Expanding α} {sources : Sources}
    {next : α → Expanding β} {found : β}
    (hfound : (outcome (computation >>= next) sources).1 = .ok found) :
    ∃ value after, outcome computation sources = (.ok value, after) ∧
      (outcome (next value) after).1 = .ok found := by
  rw [outcome_bind] at hfound
  rcases houtcome : outcome computation sources with ⟨fault | value, after⟩
  · rw [houtcome] at hfound
    exact nomatch hfound
  · rw [houtcome] at hfound
    exact ⟨value, after, rfl, hfound⟩

/-- A computation followed by a pure one. -/
theorem outcome_map_bind (next : α → β) :
    outcome (do return next (← computation)) sources =
      ((outcome computation sources).1.map next, (outcome computation sources).2) := by
  rw [outcome_bind]
  rcases outcome computation sources with ⟨_ | value, after⟩ <;> rfl

end Expanding

/-- Pieces are filled with a text or a fault, when placeholders lead where `lead` says they lead
behind a path and in a context. -/
inductive Fills (lead : List Text → Bool → Text → Lead) :
    List Text → Bool → List Piece → Sources → Except Fault Text → Sources → Prop
  | nil {path inGlobal sources} : Fills lead path inGlobal [] sources (.ok []) sources
  | plain {path inGlobal rest sources result after} (text : Text)
      (hrest : Fills lead path inGlobal rest sources result after) :
      Fills lead path inGlobal (.plain text :: rest) sources (result.map (text ++ ·)) after
  | done {path inGlobal identifier rest sources found value between result after}
      (hlead : lead path inGlobal identifier = .done found)
      (hfound : found.outcome sources = (.ok value, between))
      (hrest : Fills lead path inGlobal rest between result after) :
      Fills lead path inGlobal (.hole identifier :: rest) sources (result.map (value ++ ·)) after
  | doneFails {path inGlobal identifier rest sources found fault after}
      (hlead : lead path inGlobal identifier = .done found)
      (hfound : found.outcome sources = (.error fault, after)) :
      Fills lead path inGlobal (.hole identifier :: rest) sources (.error fault) after
  | text {path inGlobal identifier rest sources isGlobal inner value between result after}
      (hlead : lead path inGlobal identifier = .text isGlobal inner)
      (hinner : Fills lead (path ++ [identifier]) isGlobal (Piece.ofText inner) sources
        (.ok value) between)
      (hrest : Fills lead path inGlobal rest between result after) :
      Fills lead path inGlobal (.hole identifier :: rest) sources (result.map (value ++ ·)) after
  | textFails {path inGlobal identifier rest sources isGlobal inner fault after}
      (hlead : lead path inGlobal identifier = .text isGlobal inner)
      (hinner : Fills lead (path ++ [identifier]) isGlobal (Piece.ofText inner) sources
        (.error fault) after) :
      Fills lead path inGlobal (.hole identifier :: rest) sources (.error fault) after

namespace Fills

variable {lead : List Text → Bool → Text → Lead} {path : List Text} {inGlobal : Bool}
  {identifier : Text} {rest : List Piece} {sources after : Sources} {result : Except Fault Text}

/-- A placeholder that leads to its own text is filled with it, or nothing after it is filled. -/
theorem of_done {found : Expanding Text} (hlead : lead path inGlobal identifier = .done found)
    (hfills : Fills lead path inGlobal (.hole identifier :: rest) sources result after) :
    (∃ value between restResult, found.outcome sources = (.ok value, between) ∧
      Fills lead path inGlobal rest between restResult after ∧
      result = restResult.map (value ++ ·)) ∨
    ∃ fault, found.outcome sources = (.error fault, after) ∧ result = .error fault := by
  cases hfills with
  | done hother hfound hrest =>
      obtain rfl := Lead.done.inj (hlead.symm.trans hother)
      exact .inl ⟨_, _, _, hfound, hrest, rfl⟩
  | doneFails hother hfound =>
      obtain rfl := Lead.done.inj (hlead.symm.trans hother)
      exact .inr ⟨_, hfound, rfl⟩
  | text hother => exact nomatch hlead.symm.trans hother
  | textFails hother => exact nomatch hlead.symm.trans hother

/-- A placeholder that leads to another text is filled with what that text is filled with, or
nothing after it is filled. -/
theorem of_text {isGlobal : Bool} {inner : Text}
    (hlead : lead path inGlobal identifier = .text isGlobal inner)
    (hfills : Fills lead path inGlobal (.hole identifier :: rest) sources result after) :
    (∃ value between restResult,
      Fills lead (path ++ [identifier]) isGlobal (Piece.ofText inner) sources (.ok value) between ∧
      Fills lead path inGlobal rest between restResult after ∧
      result = restResult.map (value ++ ·)) ∨
    ∃ fault,
      Fills lead (path ++ [identifier]) isGlobal (Piece.ofText inner) sources (.error fault) after ∧
      result = .error fault := by
  cases hfills with
  | done hother => exact nomatch hlead.symm.trans hother
  | doneFails hother => exact nomatch hlead.symm.trans hother
  | text hother hinner hrest =>
      obtain ⟨rfl, rfl⟩ := Lead.text.inj (hlead.symm.trans hother)
      exact .inl ⟨_, _, _, hinner, hrest, rfl⟩
  | textFails hother hinner =>
      obtain ⟨rfl, rfl⟩ := Lead.text.inj (hlead.symm.trans hother)
      exact .inr ⟨_, hinner, rfl⟩

/-- Filling gives one result and leaves one state of the sources. -/
theorem unique {pieces : List Piece} {other : Except Fault Text} {otherAfter : Sources}
    (hfills : Fills lead path inGlobal pieces sources result after)
    (hother : Fills lead path inGlobal pieces sources other otherAfter) :
    other = result ∧ otherAfter = after := by
  induction hfills generalizing other otherAfter with
  | nil => cases hother; exact ⟨rfl, rfl⟩
  | plain _ _ ih =>
      cases hother with
      | plain _ hrest =>
          obtain ⟨rfl, rfl⟩ := ih hrest
          exact ⟨rfl, rfl⟩
  | done hlead hfound _ ih =>
      rcases hother.of_done hlead with ⟨value, between, rest, hotherFound, hotherRest, rfl⟩ |
        ⟨fault, hotherFound, rfl⟩
      · obtain ⟨heq, rfl⟩ := Prod.mk.inj (hfound.symm.trans hotherFound)
        obtain rfl := Except.ok.inj heq
        obtain ⟨rfl, rfl⟩ := ih hotherRest
        exact ⟨rfl, rfl⟩
      · exact nomatch (Prod.mk.inj (hfound.symm.trans hotherFound)).1
  | doneFails hlead hfound =>
      rcases hother.of_done hlead with ⟨value, between, rest, hotherFound, hotherRest, rfl⟩ |
        ⟨fault, hotherFound, rfl⟩
      · exact nomatch (Prod.mk.inj (hfound.symm.trans hotherFound)).1
      · obtain ⟨heq, rfl⟩ := Prod.mk.inj (hfound.symm.trans hotherFound)
        exact ⟨heq.symm, rfl⟩
  | text hlead _ _ ihInner ih =>
      rcases hother.of_text hlead with ⟨value, between, rest, hotherInner, hotherRest, rfl⟩ |
        ⟨fault, hotherInner, rfl⟩
      · obtain ⟨heq, rfl⟩ := ihInner hotherInner
        obtain rfl := Except.ok.inj heq
        obtain ⟨rfl, rfl⟩ := ih hotherRest
        exact ⟨rfl, rfl⟩
      · exact nomatch (ihInner hotherInner).1
  | textFails hlead _ ihInner =>
      rcases hother.of_text hlead with ⟨value, between, rest, hotherInner, hotherRest, rfl⟩ |
        ⟨fault, hotherInner, rfl⟩
      · exact nomatch (ihInner hotherInner).1
      · obtain ⟨heq, rfl⟩ := ihInner hotherInner
        exact ⟨heq, rfl⟩

end Fills

/-! ## Pieces one after the other -/

section Pieces

variable (fill : Text → Expanding Text) (rest : List Piece) (sources : Sources)

theorem outcome_fillPieces_plain (text : Text) :
    (fillPieces fill (.plain text :: rest)).outcome sources =
      (((fillPieces fill rest).outcome sources).1.map (text ++ ·),
        ((fillPieces fill rest).outcome sources).2) :=
  Expanding.outcome_map_bind _ _ _

theorem outcome_fillPieces_hole (identifier : Text) :
    (fillPieces fill (.hole identifier :: rest)).outcome sources =
      match (fill identifier).outcome sources with
      | (.ok value, between) =>
          (((fillPieces fill rest).outcome between).1.map (value ++ ·),
            ((fillPieces fill rest).outcome between).2)
      | (.error fault, after) => (.error fault, after) := by
  rw [fillPieces, Expanding.outcome_bind]
  rcases (fill identifier).outcome sources with ⟨_ | value, between⟩
  · rfl
  · exact Expanding.outcome_map_bind _ _ _

theorem fillPieces_congr {fill other : Text → Expanding Text} {pieces : List Piece}
    (hfill : ∀ identifier, .hole identifier ∈ pieces → fill identifier = other identifier) :
    fillPieces fill pieces = fillPieces other pieces := by
  induction pieces with
  | nil => rfl
  | cons piece rest ih =>
      have hrest := ih fun identifier hmem => hfill identifier (List.mem_cons_of_mem piece hmem)
      cases piece with
      | plain text => rw [fillPieces, fillPieces, hrest]
      | hole identifier =>
          rw [fillPieces, fillPieces, hfill identifier List.mem_cons_self, hrest]

end Pieces

/-- What is done with a placeholder agrees with what it leads to. -/
def Agrees (lead : List Text → Bool → Text → Lead) (path : List Text) (inGlobal : Bool)
    (identifier : Text) (computation : Expanding Text) : Prop :=
  match lead path inGlobal identifier with
  | .done found => computation = found
  | .text isGlobal inner => ∀ sources,
      Fills lead (path ++ [identifier]) isGlobal (Piece.ofText inner) sources
        (computation.outcome sources).1 (computation.outcome sources).2

theorem fills_fillPieces {lead : List Text → Bool → Text → Lead} {path : List Text}
    {inGlobal : Bool} {fill : Text → Expanding Text} {pieces : List Piece}
    (hfill : ∀ identifier, .hole identifier ∈ pieces →
      Agrees lead path inGlobal identifier (fill identifier)) (sources : Sources) :
    Fills lead path inGlobal pieces sources ((fillPieces fill pieces).outcome sources).1
      ((fillPieces fill pieces).outcome sources).2 := by
  induction pieces generalizing sources with
  | nil => exact .nil
  | cons piece rest ih =>
      have hrest := ih fun identifier hmem => hfill identifier (List.mem_cons_of_mem piece hmem)
      cases piece with
      | plain text =>
          rw [outcome_fillPieces_plain]
          exact .plain text (hrest sources)
      | hole identifier =>
          have hagrees := hfill identifier List.mem_cons_self
          rw [outcome_fillPieces_hole]
          unfold Agrees at hagrees
          split at hagrees
          · next found hlead =>
              subst hagrees
              rcases hfound : (fill identifier).outcome sources with ⟨fault | value, between⟩
              · exact .doneFails hlead hfound
              · exact .done hlead hfound (hrest between)
          · next isGlobal inner hlead =>
              have hinner := hagrees sources
              rcases hfound : (fill identifier).outcome sources with ⟨fault | value, between⟩
              · rw [hfound] at hinner
                exact .textFails hlead hinner
              · rw [hfound] at hinner
                exact .text hlead hinner (hrest between)

end HttpScript
