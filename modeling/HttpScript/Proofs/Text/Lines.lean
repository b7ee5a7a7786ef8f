import HttpScript.Text.Lines

/-!
# The lines of a longer text

A line break ends the line before it and opens the next one, so the lines of two texts with a break
between them are the lines of the one followed by the lines of the other.  The only exception is a
first text that ends in `\r`: the break would complete it to `\r\n`.

A line holds no break.  Joining lines is the inverse of cutting a text into them, as far as the text
has no breaks but `\n`.
-/

namespace HttpScript.Text

theorem lines_ne_nil (text : Text) : lines text ≠ [] := by
  fun_cases lines text with
  | case5 c rest =>
      cases lines rest <;> simp [consToFirst]
  | _ => simp

theorem consToFirst_append (c : Char) {first : List Text} (second : List Text)
    (hfirst : first ≠ []) :
    consToFirst c (first ++ second) = consToFirst c first ++ second := by
  cases first with
  | nil => exact absurd rfl hfirst
  | cons line rest => rfl

/-! ## One character more in front -/

@[simp] theorem lines_cons_newline (text : Text) : lines ('\n' :: text) = [] :: lines text := by
  rw [lines]

@[simp] theorem lines_cons_break (text : Text) :
    lines ('\r' :: '\n' :: text) = [] :: lines text := by
  rw [lines]

theorem lines_cons_return {text : Text} (hnext : text.head? ≠ some '\n') :
    lines ('\r' :: text) = [] :: lines text := by
  cases text with
  | nil => rfl
  | cons c rest =>
      rw [lines]
      intro after heq
      exact hnext (congrArg List.head? heq)

theorem lines_cons {c : Char} (hreturn : c ≠ '\r') (hnewline : c ≠ '\n') (text : Text) :
    lines (c :: text) = consToFirst c (lines text) := by
  rw [lines]
  · exact fun _ hc _ => hreturn hc
  · exact hreturn
  · exact hnewline

/-! ## A break in the middle -/

private theorem getLast?_ne_of_cons {c d : Char} {text : Text}
    (h : (c :: text).getLast? ≠ some d) : text.getLast? ≠ some d := by
  cases text with
  | nil => simp
  | cons e rest => simpa using h

theorem lines_append_newline (first second : Text) (hend : first.getLast? ≠ some '\r') :
    lines (first ++ '\n' :: second) = lines first ++ lines second := by
  fun_induction lines first with
  | case1 => exact lines_cons_newline second
  | case2 rest ih =>
      have hrest := getLast?_ne_of_cons (getLast?_ne_of_cons hend)
      simp only [List.cons_append, lines, ih hrest]
  | case3 rest hnext ih =>
      -- the `\r` is not the last character, and what follows it is no `\n`
      cases rest with
      | nil => exact absurd rfl hend
      | cons d rest =>
          have hd : (d :: (rest ++ '\n' :: second)).head? ≠ some '\n' := by
            intro heq
            exact hnext rest (by rw [Option.some_inj.mp heq])
          rw [List.cons_append, List.cons_append, lines_cons_return hd, ← List.cons_append,
            ih (getLast?_ne_of_cons hend), List.cons_append]
  | case4 rest ih =>
      rw [List.cons_append, lines_cons_newline, ih (getLast?_ne_of_cons hend), List.cons_append]
  | case5 c rest _ hreturn hnewline ih =>
      rw [List.cons_append, lines_cons hreturn hnewline, ih (getLast?_ne_of_cons hend),
        consToFirst_append c _ (lines_ne_nil rest)]

/-! ## Joining lines -/

/-- A text without a line break. -/
def IsOneLine (text : Text) : Prop :=
  ∀ c ∈ text, c ≠ '\r' ∧ c ≠ '\n'

theorem IsOneLine.mono {text part : Text} (honeLine : IsOneLine text)
    (hpart : ∀ c ∈ part, c ∈ text) : IsOneLine part :=
  fun c hc => honeLine c (hpart c hc)

theorem isOneLine_of_mem_lines (text : Text) : ∀ line ∈ lines text, IsOneLine line := by
  fun_induction lines text with
  | case1 => simp [IsOneLine]
  | case2 rest ih => simpa [IsOneLine] using ih
  | case3 rest _ ih => simpa [IsOneLine] using ih
  | case4 rest ih => simpa [IsOneLine] using ih
  | case5 c rest _ hreturn hnewline ih =>
      intro line hline
      cases hrest : lines rest with
      | nil => exact absurd hrest (lines_ne_nil rest)
      | cons first others =>
          rw [hrest] at ih hline
          rcases List.mem_cons.mp hline with rfl | hmem
          · intro d hd
            rcases List.mem_cons.mp hd with rfl | hd
            · exact ⟨hreturn, hnewline⟩
            · exact ih first List.mem_cons_self d hd
          · exact ih line (List.mem_cons_of_mem first hmem)

theorem lines_of_isOneLine {text : Text} (honeLine : IsOneLine text) : lines text = [text] := by
  induction text with
  | nil => rfl
  | cons c rest ih =>
      obtain ⟨hreturn, hnewline⟩ := honeLine c List.mem_cons_self
      rw [lines_cons hreturn hnewline, ih fun d hd => honeLine d (List.mem_cons_of_mem c hd)]
      rfl

private theorem getLast?_ne_return {text : Text} (honeLine : IsOneLine text) :
    text.getLast? ≠ some '\r' :=
  fun hlast => (honeLine '\r' (List.mem_of_getLast? hlast)).1 rfl

theorem lines_isOneLine_append {first : Text} (honeLine : IsOneLine first) (second : Text) :
    lines (first ++ '\n' :: second) = first :: lines second := by
  rw [lines_append_newline first second (getLast?_ne_return honeLine),
    lines_of_isOneLine honeLine]
  rfl

theorem join_cons (separator first second : Text) (rest : List Text) :
    join separator (first :: second :: rest) =
      first ++ separator ++ join separator (second :: rest) :=
  List.intercalate_cons_cons

theorem join_concat {parts : List Text} (hnil : parts ≠ []) (separator last : Text) :
    join separator (parts ++ [last]) = join separator parts ++ separator ++ last := by
  induction parts with
  | nil => exact absurd rfl hnil
  | cons first rest ih =>
      cases rest with
      | nil => rw [List.singleton_append, join_cons, join, join, List.intercalate_singleton,
          List.intercalate_singleton]
      | cons second rest =>
          rw [List.cons_append, List.cons_append, join_cons, join_cons, ← List.cons_append,
            ih (List.cons_ne_nil second rest)]
          simp only [List.append_assoc]

theorem mem_of_mem_join {separator : Text} {parts : List Text} {c : Char}
    (hmem : c ∈ join separator parts) : c ∈ separator ∨ ∃ part ∈ parts, c ∈ part := by
  induction parts with
  | nil => exact nomatch hmem
  | cons first rest ih =>
      cases rest with
      | nil =>
          rw [join, List.intercalate_singleton] at hmem
          exact .inr ⟨first, List.mem_cons_self, hmem⟩
      | cons second rest =>
          rw [join_cons, List.mem_append, List.mem_append] at hmem
          rcases hmem with (hfirst | hseparator) | hrest
          · exact .inr ⟨first, List.mem_cons_self, hfirst⟩
          · exact .inl hseparator
          · refine (ih hrest).imp_right ?_
            rintro ⟨part, hpart, hc⟩
            exact ⟨part, List.mem_cons_of_mem first hpart, hc⟩

theorem lines_join_append {parts : List Text} (honeLine : ∀ part ∈ parts, IsOneLine part)
    (last : Text) : lines (join ['\n'] (parts ++ [last])) = parts ++ lines last := by
  induction parts with
  | nil => rw [List.nil_append, join, List.intercalate_singleton, List.nil_append]
  | cons first rest ih =>
      have hrest := ih fun part hpart => honeLine part (List.mem_cons_of_mem first hpart)
      obtain ⟨second, others, hsecond⟩ :=
        List.exists_cons_of_ne_nil (List.append_ne_nil_of_right_ne_nil rest
          (List.cons_ne_nil last []))
      rw [hsecond] at hrest
      rw [List.cons_append, hsecond, join_cons, List.append_assoc]
      exact (lines_isOneLine_append (honeLine first List.mem_cons_self) _).trans
        (congrArg (first :: ·) hrest)

theorem lines_join {parts : List Text} (hnil : parts ≠ [])
    (honeLine : ∀ part ∈ parts, IsOneLine part) : lines (join ['\n'] parts) = parts := by
  have hlast := honeLine _ (List.getLast_mem hnil)
  have hinit : ∀ part ∈ parts.dropLast, IsOneLine part :=
    fun part hpart => honeLine part (parts.dropLast_subset hpart)
  have hlines := lines_join_append hinit (parts.getLast hnil)
  rwa [lines_of_isOneLine hlast, List.dropLast_concat_getLast] at hlines

theorem join_lines {text : Text} (hreturn : '\r' ∉ text) : join ['\n'] (lines text) = text := by
  induction text with
  | nil => rfl
  | cons c rest ih =>
      have hrest := ih fun hmem => hreturn (List.mem_cons_of_mem c hmem)
      have hc : c ≠ '\r' := fun heq => hreturn (heq ▸ List.mem_cons_self)
      obtain ⟨first, others, hlines⟩ := List.exists_cons_of_ne_nil (lines_ne_nil rest)
      rw [hlines] at hrest
      by_cases hnewline : c = '\n'
      · rw [hnewline, lines_cons_newline, hlines, join_cons, hrest]
        rfl
      · rw [lines_cons hc hnewline, hlines, consToFirst, join,
          List.intercalate_cons_cons_left]
        exact congrArg (c :: ·) hrest

end HttpScript.Text
