import HttpScript.Calendar.Format
import HttpScript.Proofs.Text.Occurrences
import Mathlib.Data.List.TakeWhile

/-!
# Patterns of date-times

A pattern is read from the front, part by part: a field of the table, a text in quotes, or a single
character that stands for itself.  What comes behind a part can change how the part is read in two
ways: a field goes on as a longer one (`MM` before an `M` is `MMM`), and a quote without another
quote behind it opens no text.

Neither happens in front of a quote.  No field has a quote in it, and of two fields that begin alike
the longer one stands first in the table, so a field is read as itself if a quote or nothing comes
behind it.  A text between quotes ends at the first quote, whatever that one is followed by.  So any
text can be written in a pattern (`quote`), and what is put between quotes keeps fields apart.
-/

namespace HttpScript.DateTime

/-! ## Reading goes on behind each part -/

theorem fields_names : ∀ name ∈ fields.map Prod.fst, name ≠ [] ∧ '\'' ∉ name := by decide

theorem exists_of_field?_eq_some {pattern rest : Text} {value : DateTime → Text}
    (hfield : field? pattern = some (value, rest)) :
    ∃ name, (name, value) ∈ fields ∧ pattern = name ++ rest := by
  obtain ⟨⟨name, other⟩, hmem, hafter⟩ := List.exists_of_findSome?_eq_some hfield
  obtain ⟨behind, hbehind, heq⟩ := Option.map_eq_some_iff.mp hafter
  obtain ⟨rfl, rfl⟩ := Prod.mk.inj heq
  exact ⟨name, hmem, Text.after?_eq_some_iff.mp hbehind⟩

theorem length_formatPart_le (moment : DateTime) (c : Char) (rest : Text) :
    (formatPart moment c rest).2.length ≤ rest.length := by
  unfold formatPart
  dsimp only
  split_ifs with hquote
  · cases hsplit : Text.splitAt? '\'' rest with
    | none => exact le_rfl
    | some split =>
        obtain ⟨-, hrest⟩ := Text.splitAt?_eq_some_iff.mp hsplit
        have hlength := congrArg List.length hrest
        rw [List.length_append, List.length_cons] at hlength
        change split.2.length ≤ rest.length
        omega
  · cases hfield : field? (c :: rest) with
    | none => exact le_rfl
    | some found =>
        obtain ⟨name, hmem, hpattern⟩ := exists_of_field?_eq_some hfield
        have hname := List.length_pos_of_ne_nil
          (fields_names name (List.mem_map_of_mem hmem)).1
        have hlength := congrArg List.length hpattern
        rw [List.length_append, List.length_cons] at hlength
        change found.2.length ≤ rest.length
        omega

/-- As many parts as the pattern has characters are enough, and more make no difference. -/
theorem formatParts_eq_formatParts (moment : DateTime) {pattern : Text} {first second : Nat}
    (hfirst : pattern.length ≤ first) (hsecond : pattern.length ≤ second) :
    formatParts moment first pattern = formatParts moment second pattern := by
  induction first generalizing pattern second with
  | zero =>
      rw [List.length_eq_zero_iff.mp (Nat.le_zero.mp hfirst)]
      cases second <;> rfl
  | succ first ih =>
      cases pattern with
      | nil => cases second <;> rfl
      | cons c rest =>
          cases second with
          | zero => exact absurd hsecond (Nat.not_succ_le_zero _)
          | succ second =>
              have hrest := length_formatPart_le moment c rest
              exact congrArg ((formatPart moment c rest).1 ++ ·)
                (ih (hrest.trans (Nat.le_of_succ_le_succ hfirst))
                  (hrest.trans (Nat.le_of_succ_le_succ hsecond)))

theorem format_cons (moment : DateTime) (c : Char) (rest : Text) :
    moment.format (c :: rest) =
      (formatPart moment c rest).1 ++ moment.format (formatPart moment c rest).2 :=
  congrArg ((formatPart moment c rest).1 ++ ·)
    (formatParts_eq_formatParts moment (length_formatPart_le moment c rest) le_rfl)

/-! ## Texts in quotes -/

theorem format_literal (moment : DateTime) {literal : Text} (hliteral : '\'' ∉ literal)
    (pattern : Text) :
    moment.format ('\'' :: (literal ++ '\'' :: pattern)) =
      (if literal.isEmpty then ['\''] else literal) ++ moment.format pattern := by
  have hpart : formatPart moment '\'' (literal ++ '\'' :: pattern) =
      (if literal.isEmpty then ['\''] else literal, pattern) := by
    rw [formatPart, if_pos rfl, Text.splitAt?_append hliteral]
    rfl
  rw [format_cons, hpart]

/-- A text as it is written in a pattern: each longest run of characters other than a quote stands
between single quotes, and each quote is written twice. -/
def quote : Text → Text
  | [] => []
  | c :: rest =>
      if c = '\'' then '\'' :: '\'' :: quote rest
      else '\'' :: c :: rest.takeWhile (· != '\'') ++ '\'' :: quote (rest.dropWhile (· != '\''))
termination_by text => text.length
decreasing_by
  · exact Nat.lt_succ_self _
  · exact Nat.lt_succ_of_le (List.dropWhile_suffix _).length_le

/-- A written text stands for itself, whatever comes behind it. -/
theorem format_quote (moment : DateTime) (text pattern : Text) :
    moment.format (quote text ++ pattern) = text ++ moment.format pattern := by
  fun_induction quote text with
  | case1 => rfl
  | case2 rest ih =>
      have hnil : '\'' ∉ ([] : Text) := List.not_mem_nil
      have hpair := format_literal moment hnil (quote rest ++ pattern)
      exact hpair.trans (congrArg ('\'' :: ·) ih)
  | case3 c rest hc ih =>
      have hrun : '\'' ∉ c :: rest.takeWhile (· != '\'') := by
        rw [List.mem_cons, not_or]
        refine ⟨Ne.symm hc, fun hmem => ?_⟩
        exact absurd (List.mem_takeWhile_imp (p := fun d => d != '\'') hmem) (by decide)
      calc moment.format
            (('\'' :: c :: rest.takeWhile (· != '\'') ++
              '\'' :: quote (rest.dropWhile (· != '\''))) ++ pattern)
          = (c :: rest.takeWhile (· != '\'')) ++
              moment.format (quote (rest.dropWhile (· != '\'')) ++ pattern) := by
            rw [List.append_assoc]
            exact format_literal moment hrun _
        _ = c :: rest ++ moment.format pattern := by
            rw [ih, ← List.append_assoc, List.cons_append, List.takeWhile_append_dropWhile]

/-! ## Fields -/

/-- A pattern that begins with a quote, if it does not end at once. -/
def IsBarred (pattern : Text) : Prop :=
  ∀ c ∈ pattern.head?, c = '\''

theorem isBarred_quote_append {text pattern : Text} (hpattern : text = [] → IsBarred pattern) :
    IsBarred (quote text ++ pattern) := by
  cases text with
  | nil =>
      rw [quote]
      exact hpattern rfl
  | cons c rest =>
      rw [quote]
      split_ifs <;> exact fun d hd => (Option.some.inj hd).symm

/-- A field that another one goes on from stands behind that one in the table. -/
theorem pairwise_fields :
    fields.Pairwise fun earlier later => ¬ earlier.1 <+: later.1 := by
  have hnames : (fields.map Prod.fst).Pairwise fun earlier later => ¬ earlier <+: later := by
    decide
  exact List.pairwise_map.mp hnames

theorem field?_append {field : Text × (DateTime → Text)} (hfield : field ∈ fields)
    {pattern : Text} (hpattern : IsBarred pattern) :
    field? (field.1 ++ pattern) = some (field.2, pattern) := by
  obtain ⟨before, after, hfields⟩ := List.append_of_mem hfield
  have hordered := pairwise_fields
  rw [hfields, List.pairwise_append] at hordered
  refine List.findSome?_eq_some_iff.mpr ⟨before, field, after, hfields, ?_, fun other hother => ?_⟩
  · dsimp only
    rw [Text.after?_append]
    rfl
  · -- a field before this one would have to be its beginning, since it cannot reach over the quote
    dsimp only
    rw [Option.map_eq_none_iff, Option.eq_none_iff_forall_ne_some]
    intro rest hafter
    have hmem : other ∈ fields := hfields ▸ List.mem_append_left _ hother
    have hquote := (fields_names other.1 (List.mem_map_of_mem hmem)).2
    have hbegins : other.1 <+: field.1 ++ pattern :=
      ⟨rest, (Text.after?_eq_some_iff.mp hafter).symm⟩
    exact hordered.2.2 other hother field List.mem_cons_self
      (Text.isPrefix_of_isPrefix_append hquote hpattern hbegins)

theorem format_field (moment : DateTime) {field : Text × (DateTime → Text)}
    (hfield : field ∈ fields) {pattern : Text} (hpattern : IsBarred pattern) :
    moment.format (field.1 ++ pattern) = field.2 moment ++ moment.format pattern := by
  obtain ⟨hnil, hquote⟩ := fields_names field.1 (List.mem_map_of_mem hfield)
  have hread := field?_append hfield hpattern
  cases hname : field.1 with
  | nil => exact absurd hname hnil
  | cons c rest =>
      rw [hname] at hread hquote
      have hc : c ≠ '\'' := fun heq => hquote (heq ▸ List.mem_cons_self)
      have hpart : formatPart moment c (rest ++ pattern) = (field.2 moment, pattern) := by
        rw [formatPart, if_neg hc, ← List.cons_append, hread]
        rfl
      rw [List.cons_append, format_cons, hpart]

/-! ## Fields and texts in turn -/

/-- A part of a pattern: a field of the table, or a text in quotes. -/
inductive Part
  | field (field : {field // field ∈ fields})
  | quoted (text : Text)

/-- How a part is written in a pattern. -/
def Part.pattern : Part → Text
  | .field ⟨(name, _), _⟩ => name
  | .quoted text => quote text

/-- What a part stands for. -/
def Part.value (moment : DateTime) : Part → Text
  | .field ⟨(_, value), _⟩ => value moment
  | .quoted text => text

/-- Between any two fields stands a text that is not empty. -/
def AreApart (parts : List Part) : Prop :=
  ∀ before first between second after,
    parts = before ++ .field first :: between ++ .field second :: after →
      ∃ text, text ≠ [] ∧ Part.quoted text ∈ between

theorem AreApart.tail {part : Part} {parts : List Part} (hapart : AreApart (part :: parts)) :
    AreApart parts := by
  intro before first between second after heq
  exact hapart (part :: before) first between second after (congrArg (part :: ·) heq)

theorem isBarred_pattern {parts : List Part}
    (hbarred : ∀ between second after, parts = between ++ .field second :: after →
      ∃ text, text ≠ [] ∧ Part.quoted text ∈ between) :
    IsBarred (parts.flatMap Part.pattern) := by
  induction parts with
  | nil => exact nofun
  | cons part parts ih =>
      cases part with
      | field field =>
          obtain ⟨text, -, hmem⟩ := hbarred [] field parts rfl
          exact nomatch hmem
      | quoted text =>
          rw [List.flatMap_cons]
          refine isBarred_quote_append fun htext => ih fun between second after heq => ?_
          -- an empty text bars nothing, so the one that does stands behind it
          obtain ⟨other, hother, hmem⟩ :=
            hbarred (.quoted text :: between) second after (congrArg (Part.quoted text :: ·) heq)
          refine ⟨other, hother, (List.mem_cons.mp hmem).resolve_left fun hsame => hother ?_⟩
          rw [Part.quoted.inj hsame, htext]

theorem format_parts (moment : DateTime) {parts : List Part} (hapart : AreApart parts) :
    moment.format (parts.flatMap Part.pattern) = parts.flatMap (Part.value moment) := by
  induction parts with
  | nil => rfl
  | cons part parts ih =>
      have hrest := ih hapart.tail
      rw [List.flatMap_cons, List.flatMap_cons, ← hrest]
      cases part with
      | field field =>
          have hbarred : IsBarred (parts.flatMap Part.pattern) :=
            isBarred_pattern fun between second after heq =>
              hapart [] field between second after (congrArg (Part.field field :: ·) heq)
          exact format_field moment field.2 hbarred
      | quoted text => exact format_quote moment text _

/-- Any text can be written in a pattern: in front of any pattern its written form stands for the
text, and the pattern for what it stands for by itself.  And a pattern of fields of the table and
texts in quotes, with a text that is not empty between any two fields, stands for the values of the
fields and the texts, one after the other. -/
theorem format_quoted_pattern (moment : DateTime) :
    (∀ text pattern, moment.format (quote text ++ pattern) = text ++ moment.format pattern) ∧
      ∀ parts, AreApart parts →
        moment.format (parts.flatMap Part.pattern) = parts.flatMap (Part.value moment) :=
  ⟨format_quote moment, fun _ => format_parts moment⟩

theorem areApart_singleton (field : {field // field ∈ fields}) : AreApart [.field field] := by
  intro before first between second after heq
  have hlength := congrArg List.length heq
  simp only [List.length_append, List.length_cons, List.length_nil] at hlength
  omega

theorem AreApart.cons_quoted {parts : List Part} (hapart : AreApart parts) (text : Text) :
    AreApart (.quoted text :: parts) := by
  intro before first between second after heq
  cases before with
  | nil => exact nomatch (List.cons.inj heq).1
  | cons part before => exact hapart before first between second after (List.cons.inj heq).2

theorem AreApart.cons_field_quoted {parts : List Part} (hapart : AreApart parts)
    (field : {field // field ∈ fields}) {text : Text} (htext : text ≠ []) :
    AreApart (.field field :: .quoted text :: parts) := by
  intro before first between second after heq
  cases before with
  | nil =>
      -- the first field is the one in front, so what stands between begins with the text
      have hbetween := (List.cons.inj heq).2
      cases between with
      | nil => exact nomatch (List.cons.inj hbetween).1
      | cons part between =>
          exact ⟨text, htext, (List.cons.inj hbetween).1 ▸ List.mem_cons_self⟩
  | cons part before =>
      exact hapart.cons_quoted text before first between second after (List.cons.inj heq).2

/-- A quote at the end of a text, an empty text, and a quote alone: no field is read too far, and no
quote is taken for the end of another text. -/
theorem format_quoted_pattern_clock :
    let moment : DateTime := ⟨⟨2024, 1, 31⟩, 10, 30, 15, 123456, some 0⟩
    let parts : List Part :=
      [.field ⟨("H", fun moment => Text.ofNat moment.hour), by simp [fields]⟩,
        .quoted "o'", .quoted [],
        .field ⟨("hh", fun moment => padded 2 moment.dialHour), by simp [fields]⟩,
        .quoted "'",
        .field ⟨("mm", fun moment => padded 2 moment.minute), by simp [fields]⟩]
    AreApart parts ∧ parts.flatMap Part.pattern = "H'o'''hh''mm".toList ∧
      moment.format "H'o'''hh''mm" = "10o'10'30".toList := by
  intro moment parts
  have hapart : AreApart parts :=
    (((areApart_singleton _).cons_field_quoted _ (by decide)).cons_quoted []).cons_field_quoted _
      (by decide)
  have hpattern : parts.flatMap Part.pattern = "H'o'''hh''mm".toList := by
    simp [parts, Part.pattern, quote]
  refine ⟨hapart, hpattern, ?_⟩
  rw [← hpattern, (format_quoted_pattern moment).2 parts hapart]
  decide

end HttpScript.DateTime
