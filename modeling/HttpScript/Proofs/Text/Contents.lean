import HttpScript.Proofs.Text.Lines
import HttpScript.Proofs.Text.Trim
import Mathlib.Data.List.Induction

/-!
# The contents of a text

What a reader sees of a text that is read line by line: its lines, trimmed, without the blank ones.
Trimming the text as a whole takes away blank lines at its ends and blank characters at the ends of
its first and last line, so the contents stay the same.
-/

namespace HttpScript.Text

/-- The lines of a text that are not blank, trimmed. -/
def contents (text : Text) : List Text :=
  ((lines text).map trim).filter fun content => !content.isEmpty

/-! ## Blank characters at the beginning -/

theorem contents_cons_newline (text : Text) : contents ('\n' :: text) = contents text := by
  rw [contents, lines_cons_newline]
  rfl

theorem contents_cons_of_isBlank {c : Char} (hblank : isBlank c = true) (text : Text) :
    contents (c :: text) = contents text := by
  by_cases hnewline : c = '\n'
  · rw [hnewline, contents_cons_newline]
  by_cases hreturn : c = '\r'
  · rw [hreturn]
    by_cases hnext : text.head? = some '\n'
    · -- the two characters are one break
      obtain ⟨rest, rfl⟩ := List.head?_eq_some_iff.mp hnext
      rw [contents_cons_newline, contents, lines]
      rfl
    · rw [contents, lines_cons_return hnext]
      rfl
  · obtain ⟨first, others, hlines⟩ := List.exists_cons_of_ne_nil (lines_ne_nil text)
    rw [contents, contents, lines_cons hreturn hnewline, hlines, consToFirst, List.map_cons,
      trim_cons_of_isBlank hblank]
    rfl

theorem contents_trimStart (text : Text) : contents (trimStart text) = contents text := by
  induction text with
  | nil => rfl
  | cons c rest ih =>
      cases hblank : isBlank c with
      | true => rw [trimStart_cons_of_isBlank hblank, ih, contents_cons_of_isBlank hblank]
      | false =>
          rw [trimStart_eq_self]
          intro d hd
          rwa [← Option.some.inj hd]

/-! ## Blank characters at the end -/

/-- Texts whose lines are the same but for blank characters at their ends and blank lines after
them. -/
def SameTrimmed (text longer : Text) : Prop :=
  ∃ more : List Text, (∀ line ∈ more, line = []) ∧
    (lines longer).map trimEnd = (lines text).map trimEnd ++ more

theorem SameTrimmed.cons {text longer : Text} (hsame : SameTrimmed text longer) {c : Char}
    (hreturn : c ≠ '\r') (hnewline : c ≠ '\n') : SameTrimmed (c :: text) (c :: longer) := by
  obtain ⟨more, hmore, hlines⟩ := hsame
  refine ⟨more, hmore, ?_⟩
  obtain ⟨first, others, hfirst⟩ := List.exists_cons_of_ne_nil (lines_ne_nil text)
  obtain ⟨start, rest, hstart⟩ := List.exists_cons_of_ne_nil (lines_ne_nil longer)
  rw [hfirst, hstart, List.map_cons, List.map_cons, List.cons_append] at hlines
  obtain ⟨hhead, htail⟩ := List.cons_eq_cons.mp hlines
  rw [lines_cons hreturn hnewline, lines_cons hreturn hnewline, hfirst, hstart, consToFirst,
    consToFirst, List.map_cons, List.map_cons, trimEnd_cons, hhead, ← trimEnd_cons, htail]
  rfl

theorem SameTrimmed.emptyLine {text longer : Text} (hsame : SameTrimmed text longer)
    {start longerStart : Text} (hstart : lines start = [] :: lines text)
    (hlongerStart : lines longerStart = [] :: lines longer) : SameTrimmed start longerStart := by
  obtain ⟨more, hmore, hlines⟩ := hsame
  refine ⟨more, hmore, ?_⟩
  rw [hstart, hlongerStart, List.map_cons, List.map_cons, hlines]
  rfl

theorem sameTrimmed_singleton {c : Char} (hblank : isBlank c = true) : SameTrimmed [] [c] := by
  by_cases hnewline : c = '\n'
  · exact ⟨[[]], by simp, by rw [hnewline]; rfl⟩
  by_cases hreturn : c = '\r'
  · exact ⟨[[]], by simp, by rw [hreturn]; rfl⟩
  · have hend : trimEnd [c] = [] := trimEnd_append_of_isBlank [] hblank
    refine ⟨[], by simp, ?_⟩
    rw [lines_cons hreturn hnewline]
    exact congrArg ([·]) hend

theorem sameTrimmed_append (text : Text) {c : Char} (hblank : isBlank c = true) :
    SameTrimmed text (text ++ [c]) := by
  fun_induction lines text with
  | case1 => exact sameTrimmed_singleton hblank
  | case2 rest ih => exact ih.emptyLine (lines_cons_break rest) (lines_cons_break (rest ++ [c]))
  | case3 rest hnext ih =>
      cases rest with
      | nil =>
          by_cases hnewline : c = '\n'
          · -- the new character completes the break that ends the text
            exact ⟨[], by simp, by rw [hnewline]; rfl⟩
          · exact ih.emptyLine rfl (lines_cons_return fun hhead => hnewline (Option.some.inj hhead))
      | cons d rest =>
          have hd : some d ≠ some '\n' := fun heq => hnext rest (by rw [Option.some.inj heq])
          exact ih.emptyLine (lines_cons_return hd) (lines_cons_return hd)
  | case4 rest ih => exact ih.emptyLine (lines_cons_newline rest) (lines_cons_newline _)
  | case5 d rest _ hreturn hnewline ih => exact ih.cons hreturn hnewline

theorem contents_append_of_isBlank (text : Text) {c : Char} (hblank : isBlank c = true) :
    contents (text ++ [c]) = contents text := by
  obtain ⟨more, hmore, hlines⟩ := sameTrimmed_append text hblank
  have htrim (parts : List Text) : parts.map trim = (parts.map trimEnd).map trim := by
    rw [List.map_map]
    exact List.map_congr_left fun part _ => (trim_trimEnd part).symm
  have hempty : (more.map trim).filter (fun content => !content.isEmpty) = [] := by
    rw [List.filter_eq_nil_iff]
    intro content hcontent
    obtain ⟨line, hline, rfl⟩ := List.mem_map.mp hcontent
    rw [hmore line hline]
    exact Bool.false_ne_true
  rw [contents, htrim, hlines, List.map_append, List.filter_append, hempty, List.append_nil,
    ← htrim]
  rfl

theorem contents_trimEnd (text : Text) : contents (trimEnd text) = contents text := by
  induction text using List.reverseRecOn with
  | nil => rfl
  | append_singleton text c ih =>
      cases hblank : isBlank c with
      | true =>
          rw [trimEnd_append_of_isBlank text hblank, ih, contents_append_of_isBlank text hblank]
      | false =>
          rw [trimEnd_eq_self]
          intro d hd
          rw [List.getLast?_append, List.getLast?_singleton] at hd
          rwa [← Option.some.inj hd]

/-- Trimming a text as a whole changes nothing about its contents. -/
@[simp] theorem contents_trim (text : Text) : contents (trim text) = contents text := by
  rw [trim, contents_trimEnd, contents_trimStart]

end HttpScript.Text
