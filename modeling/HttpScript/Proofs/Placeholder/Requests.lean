import HttpScript.Proofs.Placeholder.Filling
import Mathlib.Data.List.Forall2

/-!
# What a request is expanded to

Nothing but placeholders is changed by expansion: a text without placeholders is its own expansion,
whatever the scope (`outcome_expand_of_plain`).  The headers of a request keep their names and their
order, and each value is expanded for itself.  So the first header of a name is, after expansion,
what the first header of that name was expanded to (`Request.exists_of_resolve_eq_ok`).
-/

namespace HttpScript

/-! ## Texts without placeholders -/

namespace Piece

/-- Cutting a text at the openings of placeholders loses nothing but the openings. -/
theorem join_splitOpenings (text : Text) :
    (splitOpenings text).1 ++ (splitOpenings text).2.flatMap ("\x7b\x7b".toList ++ ·) = text := by
  fun_induction splitOpenings text with
  | case1 => rfl
  | case2 rest head fragments hsplit ih =>
      rw [hsplit] at ih
      simpa using ih
  | case3 c rest hopening head fragments hsplit ih =>
      rw [hsplit] at ih
      simpa using ih

theorem ofFragment_of_plain {fragment : Text}
    (hplain : (ofFragment fragment).filterMap identifier? = []) :
    ofFragment fragment = [.plain ("\x7b\x7b".toList ++ fragment)] := by
  unfold ofFragment at hplain ⊢
  cases hclosing : splitClosing fragment with
  | none => rfl
  | some parts =>
      rw [hclosing] at hplain
      simp [identifier?] at hplain

end Piece

theorem outcome_fillPieces_fragments {fill : Text → Expanding Text} {fragments : List Text}
    (hplain : (fragments.flatMap Piece.ofFragment).filterMap Piece.identifier? = [])
    (sources : Sources) :
    (fillPieces fill (fragments.flatMap Piece.ofFragment)).outcome sources =
      (.ok (fragments.flatMap ("\x7b\x7b".toList ++ ·)), sources) := by
  induction fragments with
  | nil => rfl
  | cons fragment rest ih =>
      rw [List.flatMap_cons, List.filterMap_append, List.append_eq_nil_iff] at hplain
      rw [List.flatMap_cons, Piece.ofFragment_of_plain hplain.1, List.singleton_append,
        outcome_fillPieces_plain, ih hplain.2]
      rfl

/-- A text without placeholders is its own expansion. -/
theorem outcome_expand_of_plain {text : Text} (hplain : placeholders text = []) (scope : Scope)
    (sources : Sources) : (expand scope text).outcome sources = (.ok text, sources) := by
  rw [expand, expandFrom]
  rw [placeholders] at hplain
  unfold Piece.ofText at hplain ⊢
  dsimp only at hplain ⊢
  rw [outcome_fillPieces_plain, outcome_fillPieces_fragments hplain, Except.map,
    Piece.join_splitOpenings]

/-! ## Headers -/

/-- A header is expanded to another one of the same name. -/
def ExpandsTo (scope : Scope) (written sent : Text × Text) : Prop :=
  sent.1 = written.1 ∧
    ∃ sources, ((expand scope written.2).outcome sources).1 = .ok sent.2

variable {scope : Scope} {sources : Sources}

theorem forall₂_of_expandHeaders {headers expanded : List (Text × Text)}
    (hexpanded : ((expandHeaders scope headers).outcome sources).1 = .ok expanded) :
    List.Forall₂ (ExpandsTo scope) headers expanded := by
  induction headers generalizing sources expanded with
  | nil =>
      obtain rfl : [] = expanded := Except.ok.inj hexpanded
      exact .nil
  | cons header rest ih =>
      rw [expandHeaders] at hexpanded
      obtain ⟨value, between, hvalue, hrest⟩ := Expanding.outcome_bind_eq_ok hexpanded
      obtain ⟨values, after, hvalues, hlist⟩ := Expanding.outcome_bind_eq_ok hrest
      obtain rfl := Except.ok.inj hlist
      exact .cons ⟨rfl, sources, congrArg Prod.fst hvalue⟩ (ih (congrArg Prod.fst hvalues))

theorem exists_of_findHeader {headers expanded : List (Text × Text)} {name value : Text}
    (hexpanded : List.Forall₂ (ExpandsTo scope) headers expanded)
    (hfound : findHeader expanded name = some value) :
    ∃ written sources, findHeader headers name = some written ∧
      ((expand scope written).outcome sources).1 = .ok value := by
  induction hexpanded with
  | nil => exact nomatch hfound
  | @cons written sent headers expanded hheader _ ih =>
      obtain ⟨hname, sources, hvalue⟩ := hheader
      unfold findHeader at hfound ih ⊢
      rw [List.find?_cons] at hfound ⊢
      rw [← hname]
      split at hfound
      · obtain rfl : sent.2 = value := Option.some.inj hfound
        exact ⟨written.2, sources, rfl, hvalue⟩
      · exact ih hfound

/-- The first header of a name is expanded to the first header of that name. -/
theorem Request.exists_of_resolve_eq_ok {request : Request} {sent : ResolvedRequest}
    (hresolved : ((request.resolve scope).outcome sources).1 = .ok sent) {name value : Text}
    (hfound : findHeader sent.headers name = some value) :
    ∃ written sources, request.header? name = some written ∧
      ((expand scope written).outcome sources).1 = .ok value := by
  obtain ⟨url, between, -, hresolved⟩ := Expanding.outcome_bind_eq_ok hresolved
  obtain ⟨headers, after, hheaders, hresolved⟩ := Expanding.outcome_bind_eq_ok hresolved
  obtain ⟨body, last, -, hresolved⟩ := Expanding.outcome_bind_eq_ok hresolved
  obtain rfl := Except.ok.inj hresolved
  exact exists_of_findHeader (forall₂_of_expandHeaders (congrArg Prod.fst hheaders)) hfound

/-- A body of which the expansion is known is sent as that. -/
theorem Request.body_of_resolve {request : Request} {scope : Scope} {sources : Sources}
    {sent : ResolvedRequest} {written text : Text}
    (hresolved : ((request.resolve scope).outcome sources).1 = .ok sent)
    (hwritten : request.body = some written) (hexpand : expand scope written = pure text) :
    sent.body = some text := by
  obtain ⟨url, between, -, hresolved⟩ := Expanding.outcome_bind_eq_ok hresolved
  obtain ⟨headers, after, -, hresolved⟩ := Expanding.outcome_bind_eq_ok hresolved
  obtain ⟨body, last, hbody, hresolved⟩ := Expanding.outcome_bind_eq_ok hresolved
  obtain rfl := Except.ok.inj hresolved
  rw [hwritten, expandOptional, hexpand] at hbody
  exact (Except.ok.inj (Prod.mk.inj hbody).1).symm

end HttpScript
