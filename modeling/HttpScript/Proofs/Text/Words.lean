import HttpScript.Proofs.Text.Trim

/-!
# Words of a text

A word goes on up to the next blank character, so a text that is written as words with blanks
between them has just these words, and nothing to trim.  What the words are follows from what a word
that is read adds to the open one (`wordsAfter_append`).
-/

namespace HttpScript.Text

variable {word : Text} {c : Char}

theorem isBlank_eq_false_of_all_isWord (hword : word.all isWord = true) :
    ∀ d ∈ word, isBlank d = false :=
  fun d hd => isBlank_eq_false_of_isWord (List.all_eq_true.mp hword d hd)

theorem wordsAfter_append (hword : ∀ d ∈ word, isBlank d = false) (current rest : Text) :
    wordsAfter current (word ++ rest) = wordsAfter (word.reverse ++ current) rest := by
  induction word generalizing current with
  | nil => rfl
  | cons d word ih =>
      have hd : isBlank d = false := hword d List.mem_cons_self
      rw [List.cons_append, wordsAfter, hd, if_neg Bool.false_ne_true,
        ih fun e he => hword e (List.mem_cons_of_mem d he), List.reverse_cons, List.append_assoc]
      rfl

theorem words_cons_of_isBlank (hblank : isBlank c = true) (rest : Text) :
    words (c :: rest) = words rest := by
  rw [words, wordsAfter, if_pos hblank]
  rfl

theorem words_eq_singleton (hword : ∀ d ∈ word, isBlank d = false) (hnil : word ≠ []) :
    words word = [word] := by
  have hread := wordsAfter_append hword [] []
  rw [List.append_nil, List.append_nil] at hread
  rw [words, hread, wordsAfter, List.isEmpty_reverse, List.isEmpty_eq_false_iff.mpr hnil,
    List.reverse_reverse]
  rfl

theorem words_append_cons (hword : ∀ d ∈ word, isBlank d = false) (hnil : word ≠ [])
    (hblank : isBlank c = true) (rest : Text) :
    words (word ++ c :: rest) = word :: words rest := by
  rw [words, wordsAfter_append hword, List.append_nil, wordsAfter, if_pos hblank,
    List.isEmpty_reverse, List.isEmpty_eq_false_iff.mpr hnil, List.reverse_reverse]
  rfl

theorem isTrimmed_append_cons {first second : Text} (hfirst : IsTrimmed first)
    (hsecond : IsTrimmed second) (hfirstNil : first ≠ []) (hsecondNil : second ≠ []) (c : Char) :
    IsTrimmed (first ++ c :: second) := by
  have hboth := hfirst.append hsecond [c] hfirstNil hsecondNil
  rwa [List.append_assoc] at hboth

end HttpScript.Text
