import HttpScript.Text.Digit
import Mathlib.Data.List.Basic
import Mathlib.Data.List.Induction

/-!
# Written numbers

A whole number is written in ASCII digits, the most significant one first, with a minus sign in
front if it is negative.  Reading what is written gives the number back.  Digits are read in many
more forms than they are written in: with zeros in front, in the digits of another script, or with a
minus sign before a zero.  Writing what was read gives the text back just when it is one of the
written forms (`ofInt_eq_iff`).
-/

namespace HttpScript.Text

/-- The ASCII digits follow one another from zero to nine. -/
theorem toNat_of_isDigit {c : Char} (hdigit : c.isDigit = true) :
    '0'.toNat ≤ c.toNat ∧ c.toNat < '0'.toNat + 10 := by
  simp only [Char.isDigit, Bool.and_eq_true, decide_eq_true_eq] at hdigit
  obtain ⟨hlow, hhigh⟩ := hdigit
  have hzero : '0'.toNat ≤ c.toNat := hlow
  have hnine : c.toNat ≤ '9'.toNat := hhigh
  exact ⟨hzero, Nat.lt_succ_of_le hnine⟩

theorem digitValue?_of_isDigit {c : Char} (hdigit : c.isDigit = true) :
    digitValue? c = some (c.toNat - '0'.toNat) := by
  have hrange : 0x30 ≤ c.toNat ∧ c.toNat < 0x30 + 10 := toNat_of_isDigit hdigit
  rw [digitValue?, zeroDigits, List.find?_cons_of_pos (by simpa using hrange)]
  rfl

theorem isDigit_of_isDigit {c : Char} (hdigit : c.isDigit = true) : isDigit c = true := by
  rw [isDigit, digitValue?_of_isDigit hdigit]
  rfl

theorem isDigit_of_mem_ofNat {c : Char} {n : Nat} (hc : c ∈ ofNat n) : c.isDigit = true :=
  Nat.isDigit_of_mem_toDigits (by decide) (by decide) hc

theorem digitsValue_ofNat (n : Nat) : digitsValue (ofNat n) = n := by
  have hsame : digitsValue (ofNat n) = Nat.ofDigitChars 10 (ofNat n) 0 := by
    refine List.foldl_ext _ _ 0 fun value c hc => ?_
    rw [digitValue?_of_isDigit (isDigit_of_mem_ofNat hc)]
    rfl
  exact hsame.trans (Nat.ofDigitChars_toDigits (by decide) (by decide))

/-- A number that is not zero is written without a zero in front. -/
theorem head?_ofNat_ne {n : Nat} (hn : 0 < n) : (ofNat n).head? ≠ some '0' := by
  have hdigit : ∀ d < 10, 0 < d → Nat.digitChar d ≠ '0' := by decide
  induction n using Nat.strongRecOn with
  | ind n ih =>
      by_cases hsmall : n < 10
      · rw [ofNat, Nat.toDigits_of_lt_base hsmall]
        exact fun heq => hdigit n hsmall hn (Option.some.inj heq)
      · rw [ofNat, Nat.toDigits_of_base_le (by decide) (by omega),
          List.head?_append_of_ne_nil _ Nat.toDigits_ne_nil]
        exact ih (n / 10) (by omega) (by omega)

theorem toNat?_ofNat (n : Nat) : toNat? (ofNat n) = some n := by
  have hnil : (ofNat n).isEmpty = false := by
    rw [List.isEmpty_eq_false_iff]
    exact Nat.toDigits_ne_nil
  have hall : (ofNat n).all isDigit = true :=
    List.all_eq_true.mpr fun c hc => isDigit_of_isDigit (isDigit_of_mem_ofNat hc)
  rw [toNat?, hnil, hall, digitsValue_ofNat]
  rfl

/-- A written number is read as what it is. -/
theorem toInt?_ofInt (n : Int) : toInt? (ofInt n) = some n := by
  cases n with
  | ofNat n =>
      rw [ofInt, toInt?]
      · rw [toNat?_ofNat]
        rfl
      · intro digits hdigits
        have hminus : '-' ∈ ofNat n := hdigits ▸ List.mem_cons_self
        exact nomatch isDigit_of_mem_ofNat hminus
  | negSucc n =>
      rw [ofInt, toInt?, toNat?_ofNat]
      rfl

/-- What is read as a natural number is digits, one or more. -/
theorem isDigit_of_toNat?_eq_some {digits : Text} {n : Nat} (hread : toNat? digits = some n) :
    digits ≠ [] ∧ ∀ c ∈ digits, isDigit c = true := by
  unfold toNat? at hread
  split_ifs at hread with hdigits
  rw [Bool.and_eq_true, Bool.not_eq_true', List.isEmpty_eq_false_iff, List.all_eq_true] at hdigits
  exact hdigits

/-- What is read as a whole number is digits with at most a minus sign. -/
theorem isDigit_or_of_toInt?_eq_some {text : Text} {n : Int} (hread : toInt? text = some n) :
    text ≠ [] ∧ ∀ c ∈ text, isDigit c = true ∨ c = '-' := by
  unfold toInt? at hread
  split at hread
  · next digits =>
      cases hsize : toNat? digits with
      | none =>
          rw [hsize] at hread
          exact nomatch hread
      | some size =>
          obtain ⟨-, hdigits⟩ := isDigit_of_toNat?_eq_some hsize
          refine ⟨List.cons_ne_nil _ _, fun c hc => ?_⟩
          exact (List.mem_cons.mp hc).symm.imp_left (hdigits c)
  · cases hsize : toNat? text with
    | none =>
        rw [hsize] at hread
        exact nomatch hread
    | some size =>
        obtain ⟨hnil, hdigits⟩ := isDigit_of_toNat?_eq_some hsize
        exact ⟨hnil, fun c hc => .inl (hdigits c hc)⟩

/-! ## Zeros in front -/

theorem digitsValue_replicate_zero (count : Nat) (digits : Text) :
    digitsValue (List.replicate count '0' ++ digits) = digitsValue digits := by
  have hzero : digitValue? '0' = some 0 := by decide
  induction count with
  | zero => rfl
  | succ count ih =>
      rw [List.replicate_succ, List.cons_append, digitsValue, List.foldl_cons, hzero]
      exact ih

theorem isDigit_of_mem_zeroPadded {c : Char} {width n : Nat} (hc : c ∈ zeroPadded width (ofNat n)) :
    c.isDigit = true := by
  rcases List.mem_append.mp hc with hzero | hdigit
  · rw [List.eq_of_mem_replicate hzero]
    decide
  · exact isDigit_of_mem_ofNat hdigit

theorem toNat?_zeroPadded (width n : Nat) : toNat? (zeroPadded width (ofNat n)) = some n := by
  have hnil : (zeroPadded width (ofNat n)).isEmpty = false := by
    rw [List.isEmpty_eq_false_iff]
    exact List.append_ne_nil_of_right_ne_nil _ Nat.toDigits_ne_nil
  have hall : (zeroPadded width (ofNat n)).all isDigit = true :=
    List.all_eq_true.mpr fun c hc => isDigit_of_isDigit (isDigit_of_mem_zeroPadded hc)
  rw [toNat?, hnil, hall, zeroPadded, digitsValue_replicate_zero, digitsValue_ofNat]
  rfl

theorem toNat?_eq_none_iff {digits : Text} (hdigits : digits.all isDigit = true) :
    toNat? digits = none ↔ digits = [] := by
  rw [toNat?, hdigits, Bool.and_true]
  cases digits <;> simp

theorem toInt?_eq_none {c : Char} (hdigit : isDigit c = false) (hminus : c ≠ '-') (rest : Text) :
    toInt? (c :: rest) = none := by
  rw [toInt?, toNat?, List.all_cons, hdigit]
  · rfl
  · exact fun digits heq => hminus (List.cons.inj heq).1

theorem ofInt_ne_nil (n : Int) : ofInt n ≠ [] := by
  cases n with
  | ofNat n => exact Nat.toDigits_ne_nil
  | negSucc n => exact List.cons_ne_nil _ _

theorem isDigit_or_of_mem_ofInt {c : Char} {n : Int} (hc : c ∈ ofInt n) :
    c.isDigit = true ∨ c = '-' := by
  cases n with
  | ofNat n => exact .inl (isDigit_of_mem_ofNat hc)
  | negSucc n =>
      rcases List.mem_cons.mp hc with rfl | hc
      · exact .inr rfl
      · exact .inl (isDigit_of_mem_ofNat hc)

/-! ## The decimal texts -/

theorem digitsValue_concat (digits : Text) {last : Char} (hlast : last.isDigit = true) :
    digitsValue (digits ++ [last]) = 10 * digitsValue digits + (last.toNat - '0'.toNat) := by
  rw [digitsValue, List.foldl_append, List.foldl_cons, List.foldl_nil,
    digitValue?_of_isDigit hlast]
  rfl

theorem ofNat_digit {c : Char} (hdigit : c.isDigit = true) :
    c.toNat - '0'.toNat < 10 ∧ ofNat (c.toNat - '0'.toNat) = [c] := by
  have hchar : ∀ d < 10, Nat.digitChar d = Char.ofNat ('0'.toNat + d) := by decide
  obtain ⟨hzero, hnine⟩ := toNat_of_isDigit hdigit
  have hsmall : c.toNat - '0'.toNat < 10 := Nat.sub_lt_left_of_lt_add hzero hnine
  refine ⟨hsmall, ?_⟩
  rw [ofNat, Nat.toDigits_of_lt_base hsmall, hchar _ hsmall, Nat.add_sub_of_le hzero,
    Char.ofNat_toNat]

/-- Digits without a zero in front are the decimal text of their number. -/
theorem ofNat_digitsValue {digits : Text} (hnil : digits ≠ [])
    (hdigits : ∀ c ∈ digits, c.isDigit = true) (hzero : digits.head? ≠ some '0') :
    0 < digitsValue digits ∧ ofNat (digitsValue digits) = digits := by
  induction digits using List.reverseRecOn with
  | nil => exact absurd rfl hnil
  | append_singleton digits last ih =>
      have hlast : last.isDigit = true :=
        hdigits last (List.mem_append_right digits List.mem_cons_self)
      obtain ⟨hsmall, hone⟩ := ofNat_digit hlast
      rw [digitsValue_concat digits hlast]
      cases digits with
      | nil =>
          change 0 < 0 + _ ∧ ofNat (0 + _) = [last]
          rw [Nat.zero_add]
          refine ⟨Nat.pos_of_ne_zero fun heq => hzero ?_, hone⟩
          rw [heq] at hone
          rw [List.nil_append, ← hone]
          rfl
      | cons first rest =>
          obtain ⟨hpos, hsame⟩ := ih (List.cons_ne_nil first rest)
            (fun c hc => hdigits c (List.mem_append_left [last] hc)) hzero
          refine ⟨by omega, ?_⟩
          rw [ofNat, ← Nat.toDigits_append_toDigits (by decide) hpos hsmall]
          exact congrArg₂ (· ++ ·) hsame hone

/-- The ways in which numbers are written: zero as one digit, any other number without a zero in
front, and a negative one behind a minus sign. -/
inductive IsDecimal : Text → Prop
  | zero : IsDecimal ['0']
  | positive {digits : Text} (hnil : digits ≠ []) (hdigits : ∀ c ∈ digits, c.isDigit = true)
      (hzero : digits.head? ≠ some '0') : IsDecimal digits
  | negative {digits : Text} (hnil : digits ≠ []) (hdigits : ∀ c ∈ digits, c.isDigit = true)
      (hzero : digits.head? ≠ some '0') : IsDecimal ('-' :: digits)

theorem isDecimal_ofInt (n : Int) : IsDecimal (ofInt n) := by
  have hdigits (n : Nat) : ∀ c ∈ ofNat n, c.isDigit = true := fun c => isDigit_of_mem_ofNat
  cases n with
  | ofNat n =>
      cases n with
      | zero => exact .zero
      | succ n => exact .positive Nat.toDigits_ne_nil (hdigits _) (head?_ofNat_ne n.succ_pos)
  | negSucc n => exact .negative Nat.toDigits_ne_nil (hdigits _) (head?_ofNat_ne n.succ_pos)

theorem exists_ofInt_eq {text : Text} (hdecimal : IsDecimal text) : ∃ n, ofInt n = text := by
  cases hdecimal with
  | zero => exact ⟨0, rfl⟩
  | positive hnil hdigits hzero =>
      exact ⟨Int.ofNat (digitsValue text), (ofNat_digitsValue hnil hdigits hzero).2⟩
  | @negative digits hnil hdigits hzero =>
      obtain ⟨hpos, hsame⟩ := ofNat_digitsValue hnil hdigits hzero
      refine ⟨.negSucc (digitsValue digits - 1), ?_⟩
      rw [ofInt, Nat.sub_add_cancel hpos, hsame]

/-- What is read as a number is its decimal text if it is a decimal text at all. -/
theorem ofInt_eq_iff {text : Text} {n : Int} (hread : toInt? text = some n) :
    ofInt n = text ↔ IsDecimal text := by
  constructor
  · rintro rfl
    exact isDecimal_ofInt n
  · intro hdecimal
    obtain ⟨m, rfl⟩ := exists_ofInt_eq hdecimal
    rw [toInt?_ofInt] at hread
    rw [Option.some.inj hread]

end HttpScript.Text
