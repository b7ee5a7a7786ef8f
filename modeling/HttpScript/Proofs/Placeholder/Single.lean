import HttpScript.Proofs.Placeholder.Behind
import HttpScript.Proofs.Text.Occurrences
import HttpScript.Proofs.Text.Trim

/-!
# Texts that are one placeholder

An identifier stands between the marks of a placeholder as it is if no mark is found in it, none is
completed by its last character, and it is trimmed.  A text that is one placeholder has nothing else
in it: it is expanded to what the placeholder leads to.
-/

namespace HttpScript

/-- A placeholder for an identifier. -/
def writePlaceholder (name : Text) : Text :=
  "\x7b\x7b".toList ++ (name ++ "\x7d\x7d".toList)

/-- A character that is neither a word character nor one that names begin with is in no name. -/
theorem Text.notMem_name {c : Char} (hstart : isNameStart c = false) (hword : isWord c = false)
    {name : Text} (hname : isName name = true) : c ∉ name := by
  intro hc
  rcases isNameStart_or_isWord_of_mem_name hname hc with hc | hc
  · exact nomatch hstart.symm.trans hc
  · exact nomatch hword.symm.trans hc

theorem Text.ne_nil_of_isName {name : Text} (hname : isName name = true) : name ≠ [] := by
  rintro rfl
  cases hname

/-! ## What stands between the marks -/

/-- A text that is read as it is between the marks of a placeholder. -/
structure Text.FitsPlaceholder (text : Text) : Prop where
  opening : ¬ "\x7b\x7b".toList <:+: text
  closing : ¬ "\x7d\x7d".toList <:+: text
  not_half : text.getLast? ≠ some '\x7d'
  trimmed : Text.IsTrimmed text

namespace Text.FitsPlaceholder

theorem of_name {name : Text} (hname : isName name = true) : FitsPlaceholder name where
  opening hinside := notMem_name (by decide) (by decide) hname (hinside.subset List.mem_cons_self)
  closing hinside := notMem_name (by decide) (by decide) hname (hinside.subset List.mem_cons_self)
  not_half hlast := notMem_name (by decide) (by decide) hname (List.mem_of_mem_getLast? hlast)
  trimmed := isTrimmed_of_forall (isBlank_eq_false_of_mem_name hname)

/-- The name of an outcome and a query behind it. -/
theorem outcomePath {name query : Text} (hname : isName name = true)
    (hquery : FitsPlaceholder query) : FitsPlaceholder (name ++ '.' :: query) where
  opening := by
    have hbefore : '\x7b' ∉ name ++ ['.'] := by
      simpa using notMem_name (by decide) (by decide) hname
    rw [List.append_cons]
    exact fun hinside => hquery.opening (isInfix_of_append hbefore hinside)
  closing := by
    have hbefore : '\x7d' ∉ name ++ ['.'] := by
      simpa using notMem_name (by decide) (by decide) hname
    rw [List.append_cons]
    exact fun hinside => hquery.closing (isInfix_of_append hbefore hinside)
  not_half := by
    rw [List.getLast?_append_of_ne_nil _ (List.cons_ne_nil _ _)]
    cases query with
    | nil => decide
    | cons c query => exact hquery.not_half
  trimmed := by
    refine ⟨fun c hc => ?_, fun c hc => ?_⟩
    · rw [List.head?_append_of_ne_nil _ (ne_nil_of_isName hname)] at hc
      exact isBlank_eq_false_of_mem_name hname c (List.mem_of_mem_head? hc)
    · rw [List.getLast?_append_of_ne_nil _ (List.cons_ne_nil _ _)] at hc
      cases query with
      | nil =>
          obtain rfl := Option.some.inj hc
          decide
      | cons d query => exact hquery.trimmed.last c hc

end Text.FitsPlaceholder

/-! ## Pieces -/

namespace Piece

theorem splitOpenings_of_not_opening {text : Text} (hopening : ¬ "\x7b\x7b".toList <:+: text) :
    splitOpenings text = (text, []) := by
  induction text with
  | nil => rfl
  | cons c rest ih =>
      rw [splitOpenings, ih fun hinside => hopening (hinside.trans (List.suffix_cons c rest).isInfix)]
      rintro others rfl rfl
      exact hopening ⟨[], others, rfl⟩

theorem splitClosing_append {identifier : Text} (hclosing : ¬ "\x7d\x7d".toList <:+: identifier)
    (hhalf : identifier.getLast? ≠ some '\x7d') (rest : Text) :
    splitClosing (identifier ++ '\x7d' :: '\x7d' :: rest) = some (identifier, rest) := by
  induction identifier with
  | nil => rfl
  | cons c identifier ih =>
      have hinner : ¬ "\x7d\x7d".toList <:+: identifier := fun hinside =>
        hclosing (hinside.trans (List.suffix_cons c identifier).isInfix)
      cases identifier with
      | nil =>
          rw [List.cons_append, splitClosing, ih hinner nofun]
          · rfl
          · rintro _ rfl
            exact absurd rfl hhalf
      | cons d identifier =>
          rw [List.getLast?_cons_cons] at hhalf
          rw [List.cons_append, splitClosing, ih hinner hhalf]
          · rfl
          · rintro others rfl heq
            obtain ⟨rfl, -⟩ := List.cons_eq_cons.mp heq
            exact hclosing ⟨[], identifier, rfl⟩

theorem ofText_writePlaceholder {identifier : Text} (hidentifier : identifier.FitsPlaceholder) :
    ofText (writePlaceholder identifier) = [.plain [], .hole identifier, .plain []] := by
  have hopen : ¬ "\x7b\x7b".toList <:+: identifier ++ ['\x7d', '\x7d'] := by
    intro hinside
    rw [← List.reverse_infix, List.reverse_append] at hinside
    exact hidentifier.opening
      (List.reverse_infix.mp (Text.isInfix_of_append (by decide) hinside))
  have hsplit : splitOpenings (writePlaceholder identifier) =
      ([], [identifier ++ ['\x7d', '\x7d']]) := by
    change splitOpenings ('\x7b' :: '\x7b' :: (identifier ++ ['\x7d', '\x7d'])) = _
    rw [splitOpenings, splitOpenings_of_not_opening hopen]
  have hfragment : ofFragment (identifier ++ ['\x7d', '\x7d']) = [.hole identifier, .plain []] := by
    rw [ofFragment, splitClosing_append hidentifier.closing hidentifier.not_half]
    dsimp only
    rw [hidentifier.trimmed.trim_eq]
  rw [ofText, hsplit]
  dsimp only
  rw [List.flatMap_singleton, hfragment]

end Piece

theorem placeholders_writePlaceholder {name : Text} (hname : Text.isName name = true) :
    placeholders (writePlaceholder name) = [name] := by
  rw [placeholders, Piece.ofText_writePlaceholder (.of_name hname)]
  rfl

/-- Nothing stands around a placeholder, so the text is filled with what its placeholder is filled
with. -/
theorem fills_writePlaceholder {lead : List Text → Bool → Text → Lead} {path : List Text}
    {inGlobal : Bool} {identifier : Text} {sources after : Sources} {result : Except Fault Text}
    (hidentifier : identifier.FitsPlaceholder)
    (hdone : ∀ found, lead path inGlobal identifier = .done found →
      found.outcome sources = (result, after))
    (htext : ∀ isGlobal value, lead path inGlobal identifier = .text isGlobal value →
      Fills lead (path ++ [identifier]) isGlobal (Piece.ofText value) sources result after) :
    Fills lead path inGlobal (Piece.ofText (writePlaceholder identifier)) sources result after := by
  have hrest (between : Sources) : Fills lead path inGlobal [.plain []] between (.ok []) between :=
    .plain [] .nil
  rw [Piece.ofText_writePlaceholder hidentifier]
  cases hlead : lead path inGlobal identifier with
  | done found =>
      have hfound := hdone found hlead
      cases result with
      | error fault => exact .plain [] (.doneFails hlead hfound)
      | ok value =>
          have hfills := Fills.plain [] (.done hlead hfound (hrest after))
          simpa [Except.map] using hfills
  | text isGlobal value =>
      have hinner := htext isGlobal value hlead
      cases result with
      | error fault => exact .plain [] (.textFails hlead hinner)
      | ok filled =>
          have hfills := Fills.plain [] (.text hlead hinner (hrest after))
          simpa [Except.map] using hfills

/-- A placeholder is expanded to what it leads to. -/
theorem expandBehind_writePlaceholder (scope : Scope) (path : List Text) (inGlobal : Bool)
    {identifier : Text} (hidentifier : identifier.FitsPlaceholder) :
    expandBehind scope path inGlobal (writePlaceholder identifier) =
      match scope.follow path inGlobal identifier with
      | .done found => found
      | .text isGlobal value => expandBehind scope (path ++ [identifier]) isGlobal value := by
  generalize htarget : (match scope.follow path inGlobal identifier with
    | .done found => found
    | .text isGlobal value => expandBehind scope (path ++ [identifier]) isGlobal value) = target
  refine funext fun sources => ?_
  have hfills : Fills scope.follow path inGlobal (Piece.ofText (writePlaceholder identifier))
      sources (target.outcome sources).1 (target.outcome sources).2 := by
    refine fills_writePlaceholder hidentifier (fun found hfollow => ?_)
      fun isGlobal value hfollow => ?_
    · rw [hfollow] at htarget
      rw [← htarget]
    · rw [hfollow] at htarget
      rw [← htarget]
      exact fills_expandBehind scope (path ++ [identifier]) isGlobal value sources
  obtain ⟨hresult, hafter⟩ :=
    hfills.unique (fills_expandBehind scope path inGlobal (writePlaceholder identifier) sources)
  exact Prod.ext hresult hafter

end HttpScript
