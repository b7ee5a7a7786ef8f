import HttpScript.Json.Reader
import HttpScript.Json.Writer
import HttpScript.Proofs.Document.LineForms
import HttpScript.Proofs.Query.Locations
import HttpScript.Proofs.Table
import HttpScript.Proofs.Text.Digits

/-!
# Reading what is written

A value that is written on one line is read as what it is, unless a floating point number is in it.
What is read of a written part is that part, and what stands behind it is left: so much is shown of
characters, strings, numbers, items and fields in turn, and of values from their children.

A character outside the first plane is written as two code units and put together again when the
string is complete.  A digit behind a number would be read as part of it; behind a written value
there is never anything but a comma, a closing bracket or brace, or the end (`Closes`).
-/

namespace HttpScript

namespace Json

/-! ## Characters -/

theorem hexDigit?_hexDigit {n : Nat} (hn : n < 16) : hexDigit? (Text.hexDigit n) = some n := by
  revert n
  decide

theorem hexDigits_four (unit : Nat) :
    Text.hexDigits 4 unit =
      [Text.hexDigit (unit / 16 / 16 / 16 % 16), Text.hexDigit (unit / 16 / 16 % 16),
        Text.hexDigit (unit / 16 % 16), Text.hexDigit (unit % 16)] := rfl

theorem hexUnit?_hexDigits {unit : Nat} (hunit : unit < 0x10000) :
    hexUnit? (Text.hexDigit (unit / 16 / 16 / 16 % 16)) (Text.hexDigit (unit / 16 / 16 % 16))
      (Text.hexDigit (unit / 16 % 16)) (Text.hexDigit (unit % 16)) = some unit := by
  have hdigit (n : Nat) : hexDigit? (Text.hexDigit (n % 16)) = some (n % 16) :=
    hexDigit?_hexDigit (Nat.mod_lt n (by decide))
  rw [hexUnit?, hdigit, hdigit, hdigit, hdigit]
  refine congrArg some ?_
  omega

theorem toNat_valid (c : Char) : c.toNat < 0xD800 ∨ 0xDFFF < c.toNat ∧ c.toNat < 0x110000 :=
  c.valid

/-- The code units by which a character is written. -/
def units (c : Char) : List Nat :=
  if c.toNat < 0x10000 then [c.toNat]
  else [0xD800 + (c.toNat - 0x10000) / 0x400, 0xDC00 + (c.toNat - 0x10000) % 0x400]

/-- Puts code units in front of those that were read. -/
def consUnits (units : List Nat) (read : Except Stop (List Nat × Text)) :
    Except Stop (List Nat × Text) :=
  units.foldr consUnit read

/-- The ways in which a character is written: a letter behind a backslash, the character itself, or
its code units in digits. -/
inductive IsWrittenAs (c : Char) : Text → Prop
  | escaped {letter : Char} (hletter : letter ≠ 'u') (hescaped : escapedChar? letter = some c)
      (hlow : c.toNat < 0x10000) : IsWrittenAs c ['\\', letter]
  | plain (hquote : c ≠ '"') (hslash : c ≠ '\\') (hcontrol : ¬c.toNat < 0x20)
      (hlow : c.toNat < 0x10000) : IsWrittenAs c [c]
  | unit (hlow : c.toNat < 0x10000) : IsWrittenAs c (unitEscape c.toNat)
  | pair (hhigh : ¬c.toNat < 0x10000) :
      IsWrittenAs c (unitEscape (0xD800 + (c.toNat - 0x10000) / 0x400) ++
        unitEscape (0xDC00 + (c.toNat - 0x10000) % 0x400))

theorem isWrittenAs_writeChar (c : Char) : IsWrittenAs c (writeChar c) := by
  have hcode {code : Nat} (hc : (c.toNat == code) = true) : c = Char.ofNat code := by
    rw [← Char.ofNat_toNat c, beq_iff_eq.mp hc]
  unfold writeChar
  split
  · next hc =>
      obtain rfl := beq_iff_eq.mp hc
      exact .escaped (by decide) rfl (by decide)
  next hquote =>
  split
  · next hc =>
      obtain rfl := beq_iff_eq.mp hc
      exact .escaped (by decide) rfl (by decide)
  next hslash =>
  split
  · next hc =>
      obtain rfl := beq_iff_eq.mp hc
      exact .escaped (by decide) rfl (by decide)
  split
  · next hc =>
      obtain rfl := beq_iff_eq.mp hc
      exact .escaped (by decide) rfl (by decide)
  split
  · next hc =>
      obtain rfl := beq_iff_eq.mp hc
      exact .escaped (by decide) rfl (by decide)
  split
  · next hc =>
      obtain rfl := hcode hc
      exact .escaped (by decide) rfl (by decide)
  split
  · next hc =>
      obtain rfl := hcode hc
      exact .escaped (by decide) rfl (by decide)
  split
  · next hprinted =>
      rw [Bool.and_eq_true, decide_eq_true_eq, decide_eq_true_eq] at hprinted
      exact .plain (fun heq => hquote (beq_iff_eq.mpr heq))
        (fun heq => hslash (beq_iff_eq.mpr heq)) (by omega) (by omega)
  split
  · next hlow => exact .unit hlow
  · next hhigh => exact .pair hhigh

section Characters

variable (opening : Text) {more : Text}

theorem readUnits_unitEscape {unit : Nat} (hunit : unit < 0x10000) (hmore : more ≠ []) :
    readUnits opening (unitEscape unit ++ more) = consUnit unit (readUnits opening more) := by
  obtain ⟨c, rest, rfl⟩ := List.exists_cons_of_ne_nil hmore
  rw [unitEscape, hexDigits_four]
  change readUnits opening ('\\' :: 'u' :: _ :: _ :: _ :: _ :: c :: rest) = _
  rw [readUnits, hexUnit?_hexDigits hunit]

/-- A letter behind a backslash. -/
theorem readUnits_escaped {letter c : Char} (hletter : letter ≠ 'u')
    (hescaped : escapedChar? letter = some c) :
    readUnits opening ('\\' :: letter :: more) = consUnit c.toNat (readUnits opening more) := by
  rw [readUnits, hescaped]
  · rintro a b c d e rest rfl
    exact absurd rfl hletter
  · exact hletter

theorem readUnits_plain {c : Char} (hquote : c ≠ '"') (hslash : c ≠ '\\')
    (hcontrol : ¬c.toNat < 0x20) :
    readUnits opening (c :: more) = consUnit c.toNat (readUnits opening more) := by
  rw [readUnits, if_neg hcontrol]
  · exact hquote
  · rintro rfl
    exact absurd rfl hslash
  · rintro a b c d e rest rfl
    exact absurd rfl hslash
  · rintro rest rfl
    exact absurd rfl hslash
  · rintro letter rest rfl
    exact absurd rfl hslash

theorem consUnits_units_of_lt {c : Char} (hlow : c.toNat < 0x10000)
    (read : Except Stop (List Nat × Text)) :
    consUnits (units c) read = consUnit c.toNat read := by
  rw [units, if_pos hlow]
  rfl

/-- A written character is read as its code units. -/
theorem readUnits_writeChar (c : Char) (hmore : more ≠ []) :
    readUnits opening (writeChar c ++ more) = consUnits (units c) (readUnits opening more) := by
  have hwritten := isWrittenAs_writeChar c
  generalize writeChar c = written at hwritten ⊢
  cases hwritten with
  | escaped hletter hescaped hlow =>
      rw [consUnits_units_of_lt hlow]
      exact readUnits_escaped opening hletter hescaped
  | plain hquote hslash hcontrol hlow =>
      rw [consUnits_units_of_lt hlow]
      exact readUnits_plain opening hquote hslash hcontrol
  | unit hlow =>
      rw [consUnits_units_of_lt hlow]
      exact readUnits_unitEscape opening hlow hmore
  | pair hhigh =>
      have hvalid := toNat_valid c
      -- digits are read only if something stands behind them; here it is the other code unit
      have hrest : unitEscape (0xDC00 + (c.toNat - 0x10000) % 0x400) ++ more ≠ [] :=
        List.append_ne_nil_of_right_ne_nil _ hmore
      rw [List.append_assoc, readUnits_unitEscape opening (by omega) hrest,
        readUnits_unitEscape opening (by omega) hmore, units, if_neg hhigh]
      rfl

end Characters

/-! ## Strings -/

theorem consUnits_ok (units others : List Nat) (rest : Text) :
    consUnits units (.ok (others, rest)) = .ok (units ++ others, rest) := by
  induction units with
  | nil => rfl
  | cons unit units ih =>
      rw [consUnits, List.foldr_cons]
      change consUnit unit (consUnits units _) = _
      rw [ih]
      rfl

theorem readUnits_flatMap (opening text rest : Text) :
    readUnits opening (text.flatMap writeChar ++ '"' :: rest) =
      .ok (text.flatMap units, rest) := by
  induction text with
  | nil => rw [List.flatMap_nil, List.nil_append, readUnits, List.flatMap_nil]
  | cons c text ih =>
      have hmore : text.flatMap writeChar ++ '"' :: rest ≠ [] :=
        List.append_ne_nil_of_right_ne_nil _ (List.cons_ne_nil _ _)
      rw [List.flatMap_cons, List.append_assoc, readUnits_writeChar opening c hmore, ih,
        consUnits_ok, List.flatMap_cons]

theorem isSurrogate_toNat (c : Char) :
    isHighSurrogate c.toNat = false ∧ isLowSurrogate c.toNat = false := by
  have hvalid := toNat_valid c
  simp only [isHighSurrogate, isLowSurrogate, Bool.and_eq_false_iff, decide_eq_false_iff_not]
  omega

theorem joinSurrogates_cons (c : Char) (rest : List Nat) :
    joinSurrogates (c.toNat :: rest) = c :: joinSurrogates rest := by
  obtain ⟨hfirst, hsecond⟩ := isSurrogate_toNat c
  cases rest with
  | nil => simp [joinSurrogates, hfirst, hsecond, Char.ofNat_toNat]
  | cons next rest => simp [joinSurrogates, hfirst, hsecond, Char.ofNat_toNat]

theorem joinSurrogates_pair {c : Char} (hhigh : ¬c.toNat < 0x10000) (rest : List Nat) :
    joinSurrogates ((0xD800 + (c.toNat - 0x10000) / 0x400) ::
      (0xDC00 + (c.toNat - 0x10000) % 0x400) :: rest) = c :: joinSurrogates rest := by
  have hvalid := toNat_valid c
  have hfirst : isHighSurrogate (0xD800 + (c.toNat - 0x10000) / 0x400) = true := by
    rw [isHighSurrogate, Bool.and_eq_true, decide_eq_true_eq, decide_eq_true_eq]
    omega
  have hsecond : isLowSurrogate (0xDC00 + (c.toNat - 0x10000) % 0x400) = true := by
    rw [isLowSurrogate, Bool.and_eq_true, decide_eq_true_eq, decide_eq_true_eq]
    omega
  have hpair : pairChar (0xD800 + (c.toNat - 0x10000) / 0x400)
      (0xDC00 + (c.toNat - 0x10000) % 0x400) = c := by
    rw [pairChar, show 0x10000 + (0xD800 + (c.toNat - 0x10000) / 0x400 - 0xD800) * 0x400 +
      (0xDC00 + (c.toNat - 0x10000) % 0x400 - 0xDC00) = c.toNat by omega, Char.ofNat_toNat]
  rw [joinSurrogates, if_pos hfirst, if_pos hsecond, hpair]

theorem joinSurrogates_flatMap (text : Text) : joinSurrogates (text.flatMap units) = text := by
  induction text with
  | nil => rfl
  | cons c text ih =>
      rw [List.flatMap_cons, units]
      split
      · rw [List.singleton_append, joinSurrogates_cons, ih]
      · next hhigh =>
          rw [List.cons_append, List.singleton_append, joinSurrogates_pair hhigh, ih]

theorem readString_flatMap (opening text rest : Text) :
    readString opening (text.flatMap writeChar ++ '"' :: rest) = .ok (text, rest) := by
  rw [readString, readUnits_flatMap]
  change Except.ok (joinSurrogates (text.flatMap units), rest) = _
  rw [joinSurrogates_flatMap]

/-! ## Numbers and names -/

/-- What stands behind a written value: the end, or what separates and closes values. -/
def Closes (rest : Text) : Prop :=
  ∀ c ∈ rest.head?, c = ',' ∨ c = ']' ∨ c = '\x7d'

theorem Closes.nil : Closes [] := by
  intro c hc
  cases hc

theorem Closes.cons {c : Char} (hc : c = ',' ∨ c = ']' ∨ c = '\x7d') (rest : Text) :
    Closes (c :: rest) := by
  intro d hd
  rwa [← Option.some.inj hd]

theorem isNumberDigit_of_mem_ofNat {c : Char} {n : Nat} (hc : c ∈ Text.ofNat n) :
    isNumberDigit c = true :=
  Text.isDigit_of_mem_ofNat hc

theorem exists_ofNat_eq_cons (n : Nat) :
    ∃ c digits, Text.ofNat n = c :: digits ∧ isNumberDigit c = true := by
  have hne : Text.ofNat n ≠ [] := Nat.toDigits_ne_nil
  obtain ⟨c, digits, hdigits⟩ := List.exists_cons_of_ne_nil hne
  exact ⟨c, digits, hdigits, isNumberDigit_of_mem_ofNat (hdigits ▸ List.mem_cons_self)⟩

section Numbers

variable {rest : Text} (hrest : Closes rest)

include hrest

theorem splitWhole_ofNat (n : Nat) :
    splitWhole (Text.ofNat n ++ rest) = some (Text.ofNat n, rest) := by
  by_cases hn : n = 0
  · rw [hn]
    rfl
  · have hhead := Text.head?_ofNat_ne (Nat.pos_of_ne_zero hn)
    have hend : ∀ c ∈ rest.head?, isNumberDigit c = false := by
      intro c hc
      rcases hrest c hc with rfl | rfl | rfl <;> rfl
    have hspan : (Text.ofNat n ++ rest).span isNumberDigit = (Text.ofNat n, rest) :=
      LineForm.span_append (fun c hc => isNumberDigit_of_mem_ofNat hc) hend
    obtain ⟨c, digits, hdigits, hdigit⟩ := exists_ofNat_eq_cons n
    rw [hdigits] at hhead hspan ⊢
    rw [List.cons_append] at hspan ⊢
    rw [splitWhole, if_pos hdigit, hspan]
    rintro rfl
    exact hhead rfl

theorem splitFraction_of_closes : splitFraction rest = ([], rest) := by
  cases rest with
  | nil => rfl
  | cons c rest =>
      rw [splitFraction]
      intro digits heq
      obtain ⟨rfl, -⟩ := List.cons_eq_cons.mp heq
      exact absurd (hrest '.' rfl) (by decide)

theorem splitExponent_of_closes : splitExponent rest = (none, rest) := by
  cases rest with
  | nil => rfl
  | cons c rest =>
      have hc : (c == 'e' || c == 'E') = false := by
        rcases hrest c rfl with rfl | rfl | rfl <;> rfl
      simp only [splitExponent, hc, Bool.false_eq_true, if_false]

theorem readUnsigned_ofNat (negative : Bool) (n : Nat) :
    readUnsigned negative (Text.ofNat n ++ rest) =
      some (.int (if negative then -(n : Int) else n), rest) := by
  simp [readUnsigned, splitWhole_ofNat hrest, splitFraction_of_closes hrest,
    splitExponent_of_closes hrest, Text.digitsValue_ofNat]

theorem readNumber_ofInt (i : Int) :
    readNumber (Text.ofInt i ++ rest) = some (.int i, rest) := by
  cases i with
  | negSucc n =>
      rw [Text.ofInt, List.cons_append, readNumber, readUnsigned_ofNat hrest]
      rfl
  | ofNat n =>
      rw [Text.ofInt, readNumber, readUnsigned_ofNat hrest]
      · rfl
      · intro more heq
        obtain ⟨c, digits, hdigits, hdigit⟩ := exists_ofNat_eq_cons n
        rw [hdigits, List.cons_append] at heq
        obtain ⟨rfl, -⟩ := List.cons_eq_cons.mp heq
        exact absurd hdigit (by decide)

end Numbers

/-- No name begins with a digit, also not behind a minus sign. -/
theorem readNamed_eq_none {c : Char} (hdigit : isNumberDigit c = true) (rest : Text) :
    readNamed (c :: rest) = none ∧ readNamed ('-' :: c :: rest) = none := by
  have hne {d : Char} (hd : isNumberDigit d = false) : d ≠ c := by
    rintro rfl
    exact nomatch hd.symm.trans hdigit
  have hn : 'n' ≠ c := hne rfl
  have ht : 't' ≠ c := hne rfl
  have hf : 'f' ≠ c := hne rfl
  have hN : 'N' ≠ c := hne rfl
  have hI : 'I' ≠ c := hne rfl
  have hminus : '-' ≠ c := hne rfl
  simp [readNamed, namedValues, Text.after?, hn, ht, hf, hN, hI, hminus]

theorem readNamed_ofInt (i : Int) (rest : Text) : readNamed (Text.ofInt i ++ rest) = none := by
  cases i with
  | ofNat n =>
      obtain ⟨c, digits, hdigits, hdigit⟩ := exists_ofNat_eq_cons n
      rw [Text.ofInt, hdigits, List.cons_append]
      exact (readNamed_eq_none hdigit _).1
  | negSucc n =>
      obtain ⟨c, digits, hdigits, hdigit⟩ := exists_ofNat_eq_cons (n + 1)
      rw [Text.ofInt, hdigits, List.cons_append, List.cons_append]
      exact (readNamed_eq_none hdigit _).2

/-! ## What a value begins with -/

/-- A floating point number. -/
def isFloat : Json → Bool
  | .float _ => true
  | _ => false

/-- No floating point number stands anywhere inside a value. -/
def HasNoFloat (value : Json) : Prop :=
  value.Throughout fun inner => inner.isFloat = false

/-- What a written value may begin with: nothing that is skipped before a value, or that stands in
place of one. -/
def isBeginning (c : Char) : Bool :=
  !isSpace c && c != ']' && c != Char.ofNat 0xFEFF

theorem isBeginning_of_isNumberDigit {c : Char} (hdigit : isNumberDigit c = true) :
    isBeginning c = true := by
  have hne {d : Char} (hd : isNumberDigit d = false) : c ≠ d := by
    rintro rfl
    exact nomatch hd.symm.trans hdigit
  simp only [isBeginning, isSpace, Bool.and_eq_true, Bool.not_eq_true', Bool.or_eq_false_iff,
    beq_eq_false_iff_ne, bne_iff_ne]
  exact ⟨⟨⟨⟨⟨hne rfl, hne rfl⟩, hne rfl⟩, hne rfl⟩, hne rfl⟩, hne rfl⟩

theorem skipSpace_of_isBeginning {c : Char} (hc : isBeginning c = true) (rest : Text) :
    skipSpace (c :: rest) = c :: rest := by
  rw [isBeginning, Bool.and_assoc, Bool.and_eq_true, Bool.not_eq_true'] at hc
  exact List.dropWhile_cons_of_neg (ne_true_of_eq_false hc.1)

/-- A value that is neither a list nor an object. -/
def isScalar : Json → Bool
  | .list _ | .object _ => false
  | _ => true

theorem write_of_isScalar {value : Json} (hscalar : value.isScalar = true) :
    value.write = value.writeScalar := by
  cases value with
  | list items => cases hscalar
  | object fields => cases hscalar
  | _ => simp only [write]

theorem exists_write_eq_cons {value : Json} (hfloat : value.isFloat = false) :
    ∃ c more, value.write = c :: more ∧ isBeginning c = true := by
  cases value with
  | float x => cases hfloat
  | null => exact ⟨'n', _, write_of_isScalar rfl, rfl⟩
  | bool truth =>
      rw [write_of_isScalar rfl]
      cases truth with
      | true => exact ⟨'t', _, rfl, rfl⟩
      | false => exact ⟨'f', _, rfl, rfl⟩
  | int i =>
      rw [write_of_isScalar rfl]
      cases i with
      | ofNat n =>
          obtain ⟨c, digits, hdigits, hdigit⟩ := exists_ofNat_eq_cons n
          exact ⟨c, digits, hdigits, isBeginning_of_isNumberDigit hdigit⟩
      | negSucc n => exact ⟨'-', _, rfl, rfl⟩
  | str text => exact ⟨'"', _, write_of_isScalar rfl, rfl⟩
  | list items => exact ⟨'[', _, by rw [write, List.cons_append], rfl⟩
  | object fields => exact ⟨'\x7b', _, by rw [write, List.cons_append], rfl⟩

theorem skipSpace_write {value : Json} (hfloat : value.isFloat = false) (rest : Text) :
    skipSpace (value.write ++ rest) = value.write ++ rest := by
  obtain ⟨c, more, hwrite, hc⟩ := exists_write_eq_cons hfloat
  rw [hwrite]
  exact skipSpace_of_isBeginning hc _

/-! ## Items -/

/-- A written value is read as what it is, and what stands behind it is left. -/
def ReadsBack (value : Json) : Prop :=
  ∀ fuel rest, value.write.length ≤ fuel → Closes rest →
    readValue fuel (value.write ++ rest) = .ok (value, rest)

section Items

variable {item : Json} {fuel : Nat} (hreads : item.ReadsBack) (hfuel : item.write.length ≤ fuel)

include hreads hfuel

theorem readItems_last (rest : Text) :
    readItems (fuel + 1) (item.write ++ ']' :: rest) = .ok ([item], rest) := by
  rw [readItems, hreads fuel _ hfuel (.cons (by decide) rest)]
  rfl

theorem readItems_next {rest after : Text} {others : List Json}
    (hothers : readItems fuel (skipSpace rest) = .ok (others, after)) :
    readItems (fuel + 1) (item.write ++ ',' :: rest) = .ok (item :: others, after) := by
  rw [readItems, hreads fuel _ hfuel (.cons (by decide) rest)]
  change (readItems fuel (skipSpace rest) >>= fun found => .ok (item :: found.1, found.2)) = _
  rw [hothers]
  rfl

end Items

theorem writeItems_cons_cons (item next : Json) (others : List Json) :
    writeItems (item :: next :: others) =
      item.write ++ ',' :: ' ' :: writeItems (next :: others) := by
  rw [writeItems, List.append_assoc]
  rfl

theorem exists_writeItems_eq_cons {item : Json} (hfloat : item.isFloat = false)
    (others : List Json) :
    ∃ c more, writeItems (item :: others) = c :: more ∧ isBeginning c = true := by
  obtain ⟨c, more, hwrite, hc⟩ := exists_write_eq_cons hfloat
  cases others with
  | nil => exact ⟨c, more, by rw [writeItems, hwrite], hc⟩
  | cons next others => exact ⟨c, _, by rw [writeItems_cons_cons, hwrite, List.cons_append], hc⟩

theorem readItems_writeItems {item : Json} {others : List Json}
    (hitems : ∀ inner ∈ item :: others, inner.isFloat = false ∧ inner.ReadsBack) {fuel : Nat}
    (hfuel : (writeItems (item :: others)).length < fuel) (rest : Text) :
    readItems fuel (writeItems (item :: others) ++ ']' :: rest) = .ok (item :: others, rest) := by
  induction others generalizing item fuel with
  | nil =>
      obtain ⟨-, hreads⟩ := hitems item List.mem_cons_self
      rw [writeItems] at hfuel ⊢
      cases fuel with
      | zero => cases hfuel
      | succ fuel => exact readItems_last hreads (Nat.le_of_lt_succ hfuel) rest
  | cons next others ih =>
      obtain ⟨-, hreads⟩ := hitems item List.mem_cons_self
      have hothers : ∀ inner ∈ next :: others, inner.isFloat = false ∧ inner.ReadsBack :=
        fun inner hinner => hitems inner (List.mem_cons_of_mem item hinner)
      have hskip : skipSpace (' ' :: (writeItems (next :: others) ++ ']' :: rest)) =
          writeItems (next :: others) ++ ']' :: rest := by
        obtain ⟨c, more, hmore, hc⟩ :=
          exists_writeItems_eq_cons (hothers next List.mem_cons_self).1 others
        rw [hmore]
        exact skipSpace_of_isBeginning hc _
      rw [writeItems_cons_cons] at hfuel ⊢
      rw [List.length_append, List.length_cons, List.length_cons] at hfuel
      rw [List.append_assoc, List.cons_append, List.cons_append]
      cases fuel with
      | zero => cases hfuel
      | succ fuel =>
          refine readItems_next hreads (by omega) ?_
          rw [hskip]
          exact ih hothers (by omega)

/-! ## Fields -/

theorem writeString_append (text rest : Text) :
    writeString text ++ rest = '"' :: (text.flatMap writeChar ++ '"' :: rest) := by
  rw [writeString, List.append_assoc]
  rfl

/-- A field as it stands in a written object. -/
def writeField (field : Text × Json) : Text :=
  writeString field.1 ++ ':' :: ' ' :: field.2.write

section Fields

variable {value : Json} {fuel : Nat} (hfloat : value.isFloat = false) (hreads : value.ReadsBack)
  (hfuel : value.write.length ≤ fuel) (name : Text)

include hfloat hreads hfuel

theorem readFields_last (rest : Text) :
    readFields (fuel + 1) (writeField (name, value) ++ '\x7d' :: rest) =
      .ok ([(name, value)], rest) := by
  have hskip : skipSpace (' ' :: (value.write ++ '\x7d' :: rest)) =
      value.write ++ '\x7d' :: rest := skipSpace_write hfloat _
  rw [writeField, List.append_assoc, writeString_append, readFields, readString_flatMap]
  change (readValue fuel (skipSpace (' ' :: (value.write ++ '\x7d' :: rest))) >>= _) = _
  rw [hskip, hreads fuel _ hfuel (.cons (by decide) rest)]
  rfl

theorem readFields_next {rest after : Text} {others : List (Text × Json)}
    (hothers : readFields fuel (skipSpace rest) = .ok (others, after)) :
    readFields (fuel + 1) (writeField (name, value) ++ ',' :: rest) =
      .ok ((name, value) :: others, after) := by
  have hskip : skipSpace (' ' :: (value.write ++ ',' :: rest)) = value.write ++ ',' :: rest :=
    skipSpace_write hfloat _
  rw [writeField, List.append_assoc, writeString_append, readFields, readString_flatMap]
  change (readValue fuel (skipSpace (' ' :: (value.write ++ ',' :: rest))) >>= _) = _
  rw [hskip, hreads fuel _ hfuel (.cons (by decide) rest)]
  change (readFields fuel (skipSpace rest) >>= fun found =>
    .ok ((name, value) :: found.1, found.2)) = _
  rw [hothers]
  rfl

end Fields

theorem writeFields_cons_nil (field : Text × Json) : writeFields [field] = writeField field := by
  rw [writeFields, List.append_assoc]
  rfl

theorem writeFields_cons_cons (field next : Text × Json) (others : List (Text × Json)) :
    writeFields (field :: next :: others) =
      writeField field ++ ',' :: ' ' :: writeFields (next :: others) := by
  rw [writeFields, List.append_assoc, List.append_assoc, List.append_assoc, writeField,
    List.append_assoc]
  rfl

theorem exists_writeFields_eq_cons (field : Text × Json) (others : List (Text × Json)) :
    ∃ more, writeFields (field :: others) = '"' :: more := by
  cases others with
  | nil => exact ⟨_, writeFields_cons_nil field⟩
  | cons next others => exact ⟨_, writeFields_cons_cons field next others⟩

theorem readFields_writeFields {field : Text × Json} {others : List (Text × Json)}
    (hfields : ∀ inner ∈ field :: others, inner.2.isFloat = false ∧ inner.2.ReadsBack)
    {fuel : Nat} (hfuel : (writeFields (field :: others)).length < fuel) (rest : Text) :
    readFields fuel (writeFields (field :: others) ++ '\x7d' :: rest) =
      .ok (field :: others, rest) := by
  induction others generalizing field fuel with
  | nil =>
      obtain ⟨hfloat, hreads⟩ := hfields field List.mem_cons_self
      rw [writeFields_cons_nil] at hfuel ⊢
      cases fuel with
      | zero => cases hfuel
      | succ fuel =>
          rw [writeField, List.length_append, List.length_cons, List.length_cons] at hfuel
          exact readFields_last hfloat hreads (by omega) field.1 rest
  | cons next others ih =>
      obtain ⟨hfloat, hreads⟩ := hfields field List.mem_cons_self
      have hothers : ∀ inner ∈ next :: others, inner.2.isFloat = false ∧ inner.2.ReadsBack :=
        fun inner hinner => hfields inner (List.mem_cons_of_mem field hinner)
      have hskip : skipSpace (' ' :: (writeFields (next :: others) ++ '\x7d' :: rest)) =
          writeFields (next :: others) ++ '\x7d' :: rest := by
        obtain ⟨more, hmore⟩ := exists_writeFields_eq_cons next others
        rw [hmore]
        rfl
      rw [writeFields_cons_cons] at hfuel ⊢
      rw [List.length_append, List.length_cons, List.length_cons] at hfuel
      rw [List.append_assoc, List.cons_append, List.cons_append]
      cases fuel with
      | zero => cases hfuel
      | succ fuel =>
          rw [writeField, List.length_append, List.length_cons, List.length_cons] at hfuel
          refine readFields_next hfloat hreads (by omega) field.1 ?_
          rw [hskip]
          exact ih hothers (by omega)

/-! ## Values -/

theorem readsBack_null : ReadsBack .null := by
  intro fuel rest hfuel _
  rw [write_of_isScalar rfl] at hfuel ⊢
  cases fuel with
  | zero => cases hfuel
  | succ fuel => rfl

theorem readsBack_bool (truth : Bool) : ReadsBack (.bool truth) := by
  intro fuel rest hfuel _
  rw [write_of_isScalar rfl] at hfuel ⊢
  cases truth <;> cases fuel with
  | zero => cases hfuel
  | succ fuel => rfl

theorem ofInt_append_ne {c : Char} (hdigit : c.isDigit = false) (hminus : c ≠ '-') (i : Int)
    (rest more : Text) : Text.ofInt i ++ rest ≠ c :: more := by
  obtain ⟨d, others, hwritten⟩ := List.exists_cons_of_ne_nil (Text.ofInt_ne_nil i)
  rw [hwritten]
  intro heq
  obtain ⟨rfl, -⟩ := List.cons_eq_cons.mp heq
  have hmem : d ∈ Text.ofInt i := hwritten ▸ List.mem_cons_self
  rcases Text.isDigit_or_of_mem_ofInt hmem with hd | hd
  · exact nomatch hdigit.symm.trans hd
  · exact hminus hd

theorem readsBack_int (i : Int) : ReadsBack (.int i) := by
  intro fuel rest hfuel hrest
  rw [write_of_isScalar rfl] at hfuel ⊢
  rw [writeScalar] at hfuel ⊢
  cases fuel with
  | zero =>
      have hnil := List.eq_nil_of_length_eq_zero (Nat.le_zero.mp hfuel)
      exact absurd hnil (Text.ofInt_ne_nil i)
  | succ fuel =>
      rw [readValue, readScalar, readNamed_ofInt, readNumber_ofInt hrest]
      · rfl
      · exact fun more => ofInt_append_ne (by decide) (by decide) i rest more
      · exact fun more => ofInt_append_ne (by decide) (by decide) i rest more
      · exact fun more => ofInt_append_ne (by decide) (by decide) i rest more

theorem readsBack_str (text : Text) : ReadsBack (.str text) := by
  intro fuel rest hfuel _
  rw [write_of_isScalar rfl] at hfuel ⊢
  rw [writeScalar, writeString_append]
  cases fuel with
  | zero => cases hfuel
  | succ fuel =>
      rw [readValue, readString_flatMap]
      rfl

theorem readsBack_list {items : List Json}
    (hitems : ∀ item ∈ items, item.isFloat = false ∧ item.ReadsBack) :
    ReadsBack (.list items) := by
  intro fuel rest hfuel _
  rw [write, List.cons_append] at hfuel ⊢
  rw [List.cons_append, List.append_assoc, List.singleton_append]
  rw [List.length_cons, List.length_append, List.length_singleton] at hfuel
  cases fuel with
  | zero => cases hfuel
  | succ fuel =>
      cases items with
      | nil => rfl
      | cons item others =>
          have hread := readItems_writeItems hitems (show _ < fuel by omega) rest
          obtain ⟨c, more, hmore, hc⟩ :=
            exists_writeItems_eq_cons (hitems item List.mem_cons_self).1 others
          rw [hmore, List.cons_append] at hread ⊢
          rw [readValue, skipSpace_of_isBeginning hc]
          split
          · next heq =>
              obtain ⟨rfl, -⟩ := List.cons_eq_cons.mp heq
              cases hc
          · rw [hread]
            rfl

theorem readsBack_object {fields : List (Text × Json)} (hnodup : (Table.names fields).Nodup)
    (hfields : ∀ field ∈ fields, field.2.isFloat = false ∧ field.2.ReadsBack) :
    ReadsBack (.object fields) := by
  intro fuel rest hfuel _
  rw [write, List.cons_append] at hfuel ⊢
  rw [List.cons_append, List.append_assoc, List.singleton_append]
  rw [List.length_cons, List.length_append, List.length_singleton] at hfuel
  cases fuel with
  | zero => cases hfuel
  | succ fuel =>
      cases fields with
      | nil => rfl
      | cons field others =>
          have hread := readFields_writeFields hfields (show _ < fuel by omega) rest
          obtain ⟨more, hmore⟩ := exists_writeFields_eq_cons field others
          -- as no name occurs twice, entering the fields one by one gives them back
          have hentries : Table.ofEntries (field :: others) = field :: others :=
            Table.setAll_eq_append hnodup
          have hskip (text : Text) : skipSpace ('"' :: text) = '"' :: text := rfl
          rw [hmore, List.cons_append] at hread ⊢
          rw [readValue, hskip]
          split
          · next heq => exact absurd (List.cons_eq_cons.mp heq).1 (by decide)
          · rw [hread]
            exact congrArg (fun entered => Except.ok (object entered, rest)) hentries

/-- A value is read back if its children are. -/
theorem readsBack {value : Json} (hkeys : value.KeysDistinct) (hfloat : value.HasNoFloat) :
    value.ReadsBack := by
  induction value using children_induction with
  | node value ih =>
      obtain ⟨hvalue, hchildren⟩ := throughout_iff.mp hfloat
      have hchild {node : Step × Json} (hnode : node ∈ value.children) :
          node.2.isFloat = false ∧ node.2.ReadsBack :=
        ⟨(throughout_iff.mp (hchildren node hnode)).1,
          ih node hnode (keysDistinct_of_mem_children hkeys hnode) (hchildren node hnode)⟩
      cases value with
      | null => exact readsBack_null
      | bool truth => exact readsBack_bool truth
      | int i => exact readsBack_int i
      | float x => cases hvalue
      | str text => exact readsBack_str text
      | list items =>
          refine readsBack_list fun item hitem => ?_
          obtain ⟨position, hposition⟩ := List.mem_iff_getElem?.mp hitem
          exact hchild (mem_children_of_getElem? hposition)
      | object fields =>
          rw [KeysDistinct] at hkeys
          exact readsBack_object hkeys.1 fun field hfield =>
            hchild (List.mem_map_of_mem hfield)

/-- A written value is read as what it is. -/
theorem read_write {value : Json} (hkeys : value.KeysDistinct) (hfloat : value.HasNoFloat) :
    read value.write = .ok value := by
  have hread := readsBack hkeys hfloat (2 * value.write.length + 2) [] (by omega) .nil
  obtain ⟨c, more, hwrite, hc⟩ := exists_write_eq_cons (throughout_iff.mp hfloat).1
  have hmark : value.write.head? ≠ some (Char.ofNat 0xFEFF) := by
    rw [hwrite]
    rintro heq
    obtain rfl := Option.some.inj heq
    exact absurd hc (by decide)
  have hskip : skipSpace value.write = value.write := by
    rw [hwrite]
    exact skipSpace_of_isBeginning hc more
  rw [List.append_nil] at hread
  rw [read, readDocument, if_neg hmark, hskip, hread]
  rfl

/-- A character outside the first plane is written as two code units. -/
example : (Json.str "é😀").write = "\"\\u00e9\\ud83d\\ude00\"" := by decide

end Json

end HttpScript
