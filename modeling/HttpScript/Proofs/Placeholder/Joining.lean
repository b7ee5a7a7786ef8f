import HttpScript.Proofs.Placeholder.Function
import HttpScript.Proofs.Placeholder.Requests
import HttpScript.Proofs.Placeholder.Termination
import Mathlib.Data.List.Infix

/-!
# Texts one behind the other

A text is closed at its end if a placeholder that was opened last is closed again, and no brace
stands there that another one could complete to an opening.  What is written behind such a text is
read as if it stood alone: the plain text at the joint belongs to both, and no placeholder reaches
across it.  So the whole is expanded by expanding the one and then the other.

Openings that nothing closes are plain text, so a text without a closing behind an opening is its
own expansion.
-/

namespace HttpScript

/-- Neither an open placeholder nor half of an opening stands at the end of a text. -/
structure Text.IsClosed (text : Text) : Prop where
  not_half : text.getLast? ≠ some '\x7b'
  closing : ∀ fragment ∈ (Piece.splitOpenings text).2.getLast?, "\x7d\x7d".toList <:+: fragment

namespace Piece

/-! ## Closings -/

theorem eq_of_splitClosing {fragment identifier rest : Text}
    (hsplit : splitClosing fragment = some (identifier, rest)) :
    fragment = identifier ++ "\x7d\x7d".toList ++ rest := by
  fun_induction splitClosing fragment generalizing identifier with
  | case1 => exact nomatch hsplit
  | case2 after =>
      obtain ⟨rfl, rfl⟩ := Prod.mk.inj (Option.some.inj hsplit)
      rfl
  | case3 c after _ ih =>
      obtain ⟨⟨before, found⟩, hfound, hpair⟩ := Option.map_eq_some_iff.mp hsplit
      obtain ⟨rfl, rfl⟩ := Prod.mk.inj hpair
      rw [ih hfound]
      rfl

/-- A closing that was found is found again when more text follows. -/
theorem splitClosing_append_of_some {fragment identifier rest : Text}
    (hsplit : splitClosing fragment = some (identifier, rest)) (more : Text) :
    splitClosing (fragment ++ more) = some (identifier, rest ++ more) := by
  fun_induction splitClosing fragment generalizing identifier with
  | case1 => exact nomatch hsplit
  | case2 after =>
      obtain ⟨rfl, rfl⟩ := Prod.mk.inj (Option.some.inj hsplit)
      rfl
  | case3 c after hclosing ih =>
      obtain ⟨⟨before, found⟩, hfound, hpair⟩ := Option.map_eq_some_iff.mp hsplit
      obtain ⟨rfl, rfl⟩ := Prod.mk.inj hpair
      -- there is a further character, so the two that are looked at are the same as before
      obtain ⟨d, others, rfl⟩ : ∃ d others, after = d :: others := by
        cases after with
        | nil => exact nomatch hfound
        | cons d others => exact ⟨d, others, rfl⟩
      have hmore := ih hfound
      rw [List.cons_append] at hmore
      rw [List.cons_append, List.cons_append, splitClosing, hmore]
      · rfl
      · intro after hc heq
        obtain ⟨rfl, -⟩ := List.cons_eq_cons.mp heq
        exact hclosing others hc rfl

theorem isSome_splitClosing_iff {fragment : Text} :
    (splitClosing fragment).isSome = true ↔ "\x7d\x7d".toList <:+: fragment := by
  constructor
  · intro hsome
    obtain ⟨⟨identifier, rest⟩, hsplit⟩ := Option.isSome_iff_exists.mp hsome
    exact ⟨identifier, rest, (eq_of_splitClosing hsplit).symm⟩
  · rintro ⟨before, rest, rfl⟩
    induction before with
    | nil => rfl
    | cons c before ih =>
        rw [List.append_assoc, List.cons_append, ← List.append_assoc]
        unfold splitClosing
        split
        · exact absurd ‹_› (List.cons_ne_nil _ _)
        · rfl
        · next heq =>
            obtain ⟨-, rfl⟩ := List.cons_eq_cons.mp heq
            rw [Option.isSome_map]
            exact ih

/-! ## Openings -/

/-- What stands between the openings of a text: one part more than there are openings. -/
def parts (text : Text) : List Text :=
  (splitOpenings text).1 :: (splitOpenings text).2

theorem parts_opening (rest : Text) : parts ('\x7b' :: '\x7b' :: rest) = [] :: parts rest := rfl

theorem parts_cons {c : Char} {rest : Text} (hopening : ¬ (c = '\x7b' ∧ rest.head? = some '\x7b')) :
    parts (c :: rest) = (parts rest).modifyHead (c :: ·) := by
  unfold parts
  rw [splitOpenings]
  · rfl
  · rintro others rfl rfl
    exact hopening ⟨rfl, rfl⟩

/-- Between two texts the last part of the one and the first part of the other become one. -/
theorem exists_parts_append {first : Text} (hhalf : first.getLast? ≠ some '\x7b')
    (second : Text) : ∃ before last, parts first = before ++ [last] ∧
      parts (first ++ second) =
        before ++ (last ++ (splitOpenings second).1) :: (splitOpenings second).2 := by
  fun_induction splitOpenings first with
  | case1 => exact ⟨[], [], rfl, rfl⟩
  | case2 rest _ _ _ ih =>
      have hrest : rest.getLast? ≠ some '\x7b' := by
        cases rest with
        | nil => exact absurd rfl hhalf
        | cons d others => simpa using hhalf
      obtain ⟨before, last, hfirst, hjoined⟩ := ih hrest
      refine ⟨[] :: before, last, ?_, ?_⟩
      · rw [parts_opening, hfirst]
        rfl
      · rw [List.cons_append, List.cons_append, parts_opening, hjoined]
        rfl
  | case3 c rest hopening _ _ _ ih =>
      cases rest with
      | nil =>
          -- the only character is no brace, so the second text opens nothing together with it
          have hc : c ≠ '\x7b' := fun heq => hhalf (heq ▸ rfl)
          refine ⟨[], [c], ?_, ?_⟩
          · exact parts_cons fun hboth => hc hboth.1
          · exact parts_cons fun hboth => hc hboth.1
      | cons d others =>
          have hnone : ¬ (c = '\x7b' ∧ d = '\x7b') := by
            rintro ⟨rfl, rfl⟩
            exact hopening others rfl rfl
          obtain ⟨before, last, hfirst, hjoined⟩ := ih (by simpa using hhalf)
          have hcons (rest : Text) :
              parts (c :: d :: rest) = (parts (d :: rest)).modifyHead (c :: ·) :=
            parts_cons fun hboth => hnone ⟨hboth.1, Option.some.inj hboth.2⟩
          rw [List.cons_append] at hjoined
          rw [List.cons_append, List.cons_append, hcons, hcons, hfirst, hjoined]
          cases before with
          | nil => exact ⟨[], c :: last, rfl, rfl⟩
          | cons part before => exact ⟨(c :: part) :: before, last, rfl, rfl⟩

/-! ## Pieces -/

theorem ofText_of_parts {text head : Text} {fragments : List Text}
    (hparts : parts text = head :: fragments) :
    ofText text = .plain head :: fragments.flatMap ofFragment := by
  obtain ⟨rfl, rfl⟩ := List.cons_eq_cons.mp hparts
  rfl

theorem ofFragment_of_splitClosing {fragment identifier rest : Text}
    (hsplit : splitClosing fragment = some (identifier, rest)) :
    ofFragment fragment = [.hole (Text.trim identifier), .plain rest] := by
  rw [ofFragment, hsplit]

/-- The pieces of two texts are the pieces of the one and of the other; only the plain text before
the joint and the plain text behind it are one piece. -/
theorem exists_ofText_append {first : Text} (hclosed : first.IsClosed) (second : Text) :
    ∃ before left right after, ofText first = before ++ [.plain left] ∧
      ofText second = .plain right :: after ∧
      ofText (first ++ second) = before ++ .plain (left ++ right) :: after := by
  obtain ⟨before, last, hfirst, hjoined⟩ := exists_parts_append hclosed.not_half second
  cases before with
  | nil => exact ⟨[], last, _, _, ofText_of_parts hfirst, rfl, ofText_of_parts hjoined⟩
  | cons head fragments =>
      rw [List.cons_append] at hfirst hjoined
      have hlast : (splitOpenings first).2 = fragments ++ [last] := congrArg List.tail hfirst
      have hclosing : "\x7d\x7d".toList <:+: last := by
        refine hclosed.closing last ?_
        rw [hlast, List.getLast?_concat]
        exact rfl
      obtain ⟨⟨identifier, rest⟩, hsplit⟩ :=
        Option.isSome_iff_exists.mp (isSome_splitClosing_iff.mpr hclosing)
      refine ⟨.plain head :: fragments.flatMap ofFragment ++ [.hole (Text.trim identifier)],
        rest, _, _, ?_, rfl, ?_⟩
      · rw [ofText_of_parts hfirst, List.flatMap_append, List.flatMap_singleton,
          ofFragment_of_splitClosing hsplit]
        simp
      · rw [ofText_of_parts hjoined, List.flatMap_append, List.flatMap_cons,
          ofFragment_of_splitClosing (splitClosing_append_of_some hsplit _)]
        simp

theorem ofFragment_of_not_closing {fragment : Text}
    (hclosing : ¬ "\x7d\x7d".toList <:+: fragment) :
    (ofFragment fragment).filterMap identifier? = [] := by
  rw [ofFragment, Option.not_isSome_iff_eq_none.mp (isSome_splitClosing_iff.not.mpr hclosing)]
  rfl

end Piece

/-- A text in which nothing is closed behind an opening has no placeholders. -/
theorem placeholders_of_not_closing {text : Text}
    (hclosing : ∀ before after, text = before ++ "\x7b\x7b".toList ++ after →
      ¬ "\x7d\x7d".toList <:+: after) : placeholders text = [] := by
  rw [placeholders, Piece.ofText, List.filterMap_cons, List.filterMap_flatMap]
  refine List.flatMap_eq_nil_iff.mpr fun fragment hfragment => ?_
  -- the fragment stands behind an opening, with all that follows it
  obtain ⟨before, after, hsplit⟩ := List.append_of_mem hfragment
  have hjoin := Piece.join_splitOpenings text
  rw [hsplit, List.flatMap_append, List.flatMap_cons] at hjoin
  refine Piece.ofFragment_of_not_closing fun hinside => ?_
  have hopening : text =
      (Piece.splitOpenings text).1 ++ before.flatMap ("\x7b\x7b".toList ++ ·) ++
        "\x7b\x7b".toList ++ (fragment ++ after.flatMap ("\x7b\x7b".toList ++ ·)) := by
    simpa only [List.append_assoc] using hjoin.symm
  exact hclosing _ _ hopening (hinside.trans (List.infix_append' [] fragment _))

/-! ## Filling -/

section Filling

variable (fill : Text → Expanding Text)

theorem fillPieces_append (pieces others : List Piece) :
    fillPieces fill (pieces ++ others) =
      do return (← fillPieces fill pieces) ++ (← fillPieces fill others) := by
  induction pieces with
  | nil => simp [fillPieces]
  | cons piece rest ih => cases piece <;> simp [fillPieces, ih, -bind_pure_comp]

theorem fillPieces_plain_append (left right : Text) (rest : List Piece) :
    fillPieces fill (.plain (left ++ right) :: rest) =
      fillPieces fill (.plain left :: .plain right :: rest) := by
  simp [fillPieces]

end Filling

/-- A greater bound than the one that `expand` works with makes no difference. -/
theorem expand_eq_of_le {scope : Scope} {text : Text} {fuel : Nat}
    (hfuel : (scope.reachable text).length ≤ fuel) :
    expand scope text = expandFrom scope (fuel + 1) [] false text := by
  have hdedup := (List.dedup_sublist (scope.reachable text)).length_le
  exact expandFrom_eq_of_lt .start (Nat.lt_succ_of_le hdedup)
    (Nat.lt_succ_of_le (Nat.le_trans hdedup hfuel))

theorem expandFrom_append {first : Text} (hclosed : first.IsClosed) (second : Text)
    (scope : Scope) (fuel : Nat) (path : List Text) (inGlobal : Bool) :
    expandFrom scope (fuel + 1) path inGlobal (first ++ second) = do
      return (← expandFrom scope (fuel + 1) path inGlobal first) ++
        (← expandFrom scope (fuel + 1) path inGlobal second) := by
  obtain ⟨before, left, right, after, hfirst, hsecond, hjoined⟩ :=
    Piece.exists_ofText_append hclosed second
  rw [expandFrom, expandFrom, expandFrom, hfirst, hsecond, hjoined, ← fillPieces_append,
    fillPieces_append, fillPieces_plain_append, ← fillPieces_append, List.append_assoc]
  rfl

/-- Expansion goes through a closed text and what follows it one after the other: the whole is
expanded to what the two are expanded to, the second takes from the sources what the first leaves,
and a fault of the first is the fault of the whole.  A text in which nothing is closed behind an
opening is its own expansion. -/
theorem expand_append (scope : Scope) :
    (∀ first second : Text, first.IsClosed →
      expand scope (first ++ second) =
        do return (← expand scope first) ++ (← expand scope second)) ∧
    ∀ text : Text,
      (∀ before after, text = before ++ "\x7b\x7b".toList ++ after →
        ¬ "\x7d\x7d".toList <:+: after) →
      expand scope text = pure text := by
  constructor
  · intro first second hclosed
    -- a bound that leaves room for each of the three texts
    obtain ⟨fuel, hjoined, hfirst, hsecond⟩ : ∃ fuel,
        (scope.reachable (first ++ second)).length ≤ fuel ∧
        (scope.reachable first).length ≤ fuel ∧ (scope.reachable second).length ≤ fuel :=
      ⟨(scope.reachable (first ++ second)).length + (scope.reachable first).length +
        (scope.reachable second).length, by omega, by omega, by omega⟩
    rw [expand_eq_of_le hjoined, expand_eq_of_le hfirst, expand_eq_of_le hsecond]
    exact expandFrom_append hclosed second scope fuel [] false
  · intro text hclosing
    funext sources
    exact outcome_expand_of_plain (placeholders_of_not_closing hclosing) scope sources

/-- Braces at the joint and an opening at the end are plain text, and the second text is expanded
with the sources that the first one leaves. -/
theorem expand_append_braces :
    let scope : Scope :=
      { env := [("x", "1")], globals := [], locals := [], outcomes := [] }
    let first : Text := "a\x7b\x7bx\x7d\x7d\x7d"
    let second : Text := "\x7b$\x7b\x7b$guid\x7d\x7d\x7b\x7b"
    (expand scope (first ++ second)).outcome .sample =
        (.ok "a1\x7d\x7b$00000000-0000-4000-8000-000000000001\x7b\x7b",
          { Sources.sample with issued := 1 }) ∧
      expand scope "\x7d\x7d\x7b\x7b\x7d" = pure "\x7d\x7d\x7b\x7b\x7d" := by
  intro scope first second
  have hclosed : first.IsClosed := by
    refine ⟨by decide, fun fragment hfragment => ?_⟩
    obtain rfl : "x\x7d\x7d\x7d".toList = fragment := Option.some.inj hfragment
    exact ⟨['x'], ['\x7d'], rfl⟩
  -- what stands behind an opening is one of the six ends of the text
  have hends : ∀ rest ∈ ("\x7d\x7d\x7b\x7b\x7d" : Text).tails,
      "\x7b\x7b".toList ++ rest ∈ ("\x7d\x7d\x7b\x7b\x7d" : Text).tails →
        ¬ "\x7d\x7d".toList <:+: rest := by decide
  refine ⟨?_, (expand_append scope).2 _ fun before after heq => hends after ?_ ?_⟩
  · rw [(expand_append scope).1 first second hclosed]
    exact Prod.ext rfl rfl
  · exact (List.mem_tails _ _).mpr ⟨_, heq.symm⟩
  · exact (List.mem_tails _ _).mpr ⟨before, by rw [heq, List.append_assoc]⟩

end HttpScript
