import HttpScript.Text.Word
import Mathlib.Data.List.Basic
import Mathlib.Data.List.TakeWhile

/-!
# Trimmed texts

A text is trimmed when it neither begins nor ends with a blank character.  Trimming makes a text so
and leaves alone one that is so already.  Word characters are never blank, so names are trimmed.
-/

namespace HttpScript.Text

/-- A text that neither begins nor ends with a blank character. -/
structure IsTrimmed (text : Text) : Prop where
  first : ∀ c ∈ text.head?, isBlank c = false
  last : ∀ c ∈ text.getLast?, isBlank c = false

/-! ## Characters that are not blank -/

/-- A character that passes a test is not blank, if no character of a blank code point passes it. -/
theorem isBlank_eq_false_of (p : Char → Bool)
    (hall : (blankRanges.all fun range =>
      (List.range' range.1 (range.2 + 1 - range.1)).all fun n => !p (Char.ofNat n)) = true)
    {c : Char} (hc : p c = true) : isBlank c = false := by
  rw [← Bool.not_eq_true]
  intro hblank
  obtain ⟨range, hrange, hin⟩ := List.any_eq_true.mp hblank
  rw [Bool.and_eq_true, decide_eq_true_eq, decide_eq_true_eq] at hin
  have hmem : c.toNat ∈ List.range' range.1 (range.2 + 1 - range.1) := by
    rw [List.mem_range'_1]
    omega
  have hchar := List.all_eq_true.mp (List.all_eq_true.mp hall range hrange) c.toNat hmem
  rw [Char.ofNat_toNat, hc] at hchar
  exact nomatch hchar

theorem isBlank_eq_false_of_isWord {c : Char} (hword : isWord c = true) : isBlank c = false :=
  isBlank_eq_false_of isWord (by decide +kernel) hword

theorem isBlank_eq_false_of_isUpper {c : Char} (hupper : c.isUpper = true) : isBlank c = false :=
  isBlank_eq_false_of Char.isUpper (by decide +kernel) hupper

theorem isBlank_eq_false_of_isNameStart {c : Char} (hstart : isNameStart c = true) :
    isBlank c = false :=
  isBlank_eq_false_of isNameStart (by decide +kernel) hstart

theorem isNameStart_or_isWord_of_mem_name {name : Text} (hname : isName name = true) {c : Char}
    (hc : c ∈ name) : isNameStart c = true ∨ isWord c = true := by
  cases name with
  | nil => exact nomatch hc
  | cons first rest =>
      obtain ⟨hstart, hrest⟩ := Bool.and_eq_true_iff.mp hname
      rcases List.mem_cons.mp hc with rfl | hc
      · exact .inl hstart
      · exact .inr (List.all_eq_true.mp hrest c hc)

theorem isBlank_eq_false_of_mem_name {name : Text} (hname : isName name = true) :
    ∀ c ∈ name, isBlank c = false := by
  intro c hc
  rcases isNameStart_or_isWord_of_mem_name hname hc with hstart | hword
  · exact isBlank_eq_false_of_isNameStart hstart
  · exact isBlank_eq_false_of_isWord hword

/-! ## The beginning of a text -/

theorem trimStart_cons_of_isBlank {c : Char} (hblank : isBlank c = true) (text : Text) :
    trimStart (c :: text) = trimStart text :=
  List.dropWhile_cons_of_pos hblank

theorem trimStart_eq_self {text : Text} (hfirst : ∀ c ∈ text.head?, isBlank c = false) :
    trimStart text = text := by
  cases text with
  | nil => rfl
  | cons c rest => exact List.dropWhile_cons_of_neg (ne_true_of_eq_false (hfirst c rfl))

theorem isBlank_head?_trimStart {text : Text} :
    ∀ c ∈ (trimStart text).head?, isBlank c = false := by
  intro c hc
  have hdrop := List.head?_dropWhile_not isBlank text
  rw [show (text.dropWhile isBlank).head? = some c from hc] at hdrop
  exact hdrop

theorem trimStart_suffix (text : Text) : trimStart text <:+ text :=
  List.dropWhile_suffix isBlank

theorem trimStart_eq_nil_iff {text : Text} :
    trimStart text = [] ↔ ∀ c ∈ text, isBlank c = true :=
  List.dropWhile_eq_nil_iff

theorem trimStart_append {text : Text} (hnil : trimStart text ≠ []) (more : Text) :
    trimStart (text ++ more) = trimStart text ++ more := by
  rw [trimStart, List.dropWhile_append, if_neg, trimStart]
  rwa [List.isEmpty_iff]

/-! ## The end of a text -/

theorem trimEnd_append_of_isBlank (text : Text) {c : Char} (hblank : isBlank c = true) :
    trimEnd (text ++ [c]) = trimEnd text := by
  rw [trimEnd, List.reverse_append]
  exact congrArg List.reverse (trimStart_cons_of_isBlank hblank text.reverse)

theorem trimEnd_eq_self {text : Text} (hlast : ∀ c ∈ text.getLast?, isBlank c = false) :
    trimEnd text = text := by
  have hreverse : trimStart text.reverse = text.reverse :=
    trimStart_eq_self (by rwa [List.head?_reverse])
  exact (congrArg List.reverse hreverse).trans text.reverse_reverse

theorem trimEnd_cons (c : Char) (text : Text) :
    trimEnd (c :: text) = if (trimEnd text).isEmpty then trimEnd [c] else c :: trimEnd text := by
  have hreverse : trimStart (c :: text).reverse =
      if (trimStart text.reverse).isEmpty then trimStart [c]
      else trimStart text.reverse ++ [c] := by
    rw [List.reverse_cons, trimStart, List.dropWhile_append]
    rfl
  rw [trimEnd, show (c :: text).reverse.dropWhile isBlank = _ from hreverse, apply_ite List.reverse,
    List.reverse_append, ← List.isEmpty_reverse]
  rfl

theorem trimEnd_append {more : Text} (hnil : trimEnd more ≠ []) (text : Text) :
    trimEnd (text ++ more) = text ++ trimEnd more := by
  have hreverse : trimStart more.reverse ≠ [] := fun heq => hnil (congrArg List.reverse heq)
  calc trimEnd (text ++ more) = (trimStart (more.reverse ++ text.reverse)).reverse := by
        rw [trimEnd, trimStart, List.reverse_append]
    _ = text ++ trimEnd more := by
        rw [trimStart_append hreverse, List.reverse_append, List.reverse_reverse]
        rfl

theorem isBlank_getLast?_trimEnd {text : Text} :
    ∀ c ∈ (trimEnd text).getLast?, isBlank c = false := by
  intro c hc
  rw [trimEnd, List.getLast?_reverse] at hc
  exact isBlank_head?_trimStart c hc

theorem trimEnd_isPrefix (text : Text) : trimEnd text <+: text := by
  have hsuffix := trimStart_suffix text.reverse
  rwa [← List.reverse_prefix, List.reverse_reverse] at hsuffix

theorem trimEnd_eq_nil_iff {text : Text} : trimEnd text = [] ↔ ∀ c ∈ text, isBlank c = true := by
  rw [trimEnd, List.reverse_eq_nil_iff]
  exact trimStart_eq_nil_iff.trans (by simp only [List.mem_reverse])

/-! ## Both ends -/

theorem isTrimmed_trim (text : Text) : IsTrimmed (trim text) where
  first := by
    intro c hc
    obtain ⟨rest, hrest⟩ := trimEnd_isPrefix (trimStart text)
    have hhead : c ∈ (trimStart text).head? := by
      rw [← hrest]
      exact List.mem_head?_append_of_mem_head? hc
    exact isBlank_head?_trimStart c hhead
  last := isBlank_getLast?_trimEnd

theorem IsTrimmed.trim_eq {text : Text} (htrimmed : IsTrimmed text) : trim text = text := by
  rw [trim, trimStart_eq_self htrimmed.first, trimEnd_eq_self htrimmed.last]

@[simp] theorem trim_trim (text : Text) : trim (trim text) = trim text :=
  (isTrimmed_trim text).trim_eq

theorem trim_cons_of_isBlank {c : Char} (hblank : isBlank c = true) (text : Text) :
    trim (c :: text) = trim text := by
  rw [trim, trimStart_cons_of_isBlank hblank, trim]

@[simp] theorem trim_trimEnd (text : Text) : trim (trimEnd text) = trim text := by
  induction text with
  | nil => rfl
  | cons c rest ih =>
      cases hblank : isBlank c with
      | true =>
          rw [trim_cons_of_isBlank hblank, ← ih, trimEnd_cons]
          split
          · next hempty =>
              rw [List.isEmpty_iff.mp hempty, trimEnd_eq_nil_iff.mpr]
              intro d hd
              rwa [List.mem_singleton.mp hd]
          · exact trim_cons_of_isBlank hblank _
      | false =>
          have hfirst : ∀ d ∈ (c :: rest).head?, isBlank d = false := by
            intro d hd
            rwa [← Option.some.inj hd]
          have hprefix := trimEnd_isPrefix (c :: rest)
          rw [trim, trim, trimStart_eq_self hfirst, trimStart_eq_self, trimEnd_eq_self]
          · exact isBlank_getLast?_trimEnd
          · intro d hd
            obtain ⟨after, hafter⟩ := hprefix
            exact hfirst d (hafter ▸ List.mem_head?_append_of_mem_head? hd)

theorem trim_append_of_isBlank (text : Text) {c : Char} (hblank : isBlank c = true) :
    trim (text ++ [c]) = trim text := by
  rw [← trim_trimEnd, trimEnd_append_of_isBlank text hblank, trim_trimEnd]

theorem trim_isInfix (text : Text) : trim text <:+: text :=
  (trimEnd_isPrefix _).isInfix.trans (trimStart_suffix text).isInfix

theorem mem_of_mem_trim {c : Char} {text : Text} (hmem : c ∈ trim text) : c ∈ text :=
  (trim_isInfix text).subset hmem

theorem trim_eq_nil_iff {text : Text} : trim text = [] ↔ ∀ c ∈ text, isBlank c = true := by
  rw [trim, trimEnd_eq_nil_iff]
  constructor
  · intro hall
    have hstart : trimStart text = [] := by
      cases hstart : trimStart text with
      | nil => rfl
      | cons c rest =>
          have hblank := isBlank_head?_trimStart c (by rw [hstart]; rfl)
          rw [hall c (by rw [hstart]; exact List.mem_cons_self)] at hblank
          exact nomatch hblank
    exact trimStart_eq_nil_iff.mp hstart
  · intro hall c hc
    exact hall c ((trimStart_suffix text).subset hc)

/-- A text that begins with one trimmed text and ends with another is trimmed. -/
theorem IsTrimmed.append {first second : Text} (hfirst : IsTrimmed first)
    (hsecond : IsTrimmed second) (between : Text) (hfirstNil : first ≠ [])
    (hsecondNil : second ≠ []) :
    IsTrimmed (first ++ between ++ second) where
  first := by
    intro c hc
    rw [List.append_assoc, List.head?_append_of_ne_nil _ hfirstNil] at hc
    exact hfirst.first c hc
  last := by
    intro c hc
    rw [List.getLast?_append_of_ne_nil _ hsecondNil] at hc
    exact hsecond.last c hc

theorem isTrimmed_of_forall {text : Text} (hall : ∀ c ∈ text, isBlank c = false) :
    IsTrimmed text where
  first := fun c hc => hall c (List.mem_of_mem_head? hc)
  last := fun c hc => hall c (List.mem_of_mem_getLast? hc)

end HttpScript.Text
