import HttpScript.Proofs.Query.Written

/-!
# Names behind a dot

The entry of an object can be reached by its name behind a dot or by its name between quotes.
Quotes reach every name without that quote in it.  Behind a dot most names are read as they stand,
but two kinds are not.  A star is taken for a segment of its own, so a name that begins with one
leaves something behind that is no segment.  Digits are taken for a position, and what an object is
asked for is the position in decimal: the same name again for `10` and `-1`, another one for `01`
and `-0`.
-/

namespace HttpScript

namespace Query

/-- A name that could stand behind a dot: nothing in it ends a name there, trimming leaves it as it
is, and it is not the star that stands for every name. -/
structure IsPlain (name : Text) : Prop where
  ne_nil : name ≠ []
  isTrimmed : Text.IsTrimmed name
  ne_star : name ≠ ['*']
  nameChars : ∀ c ∈ name, isNameChar c = true

/-- The query of a name behind a dot. -/
def dotted (name : Text) : Text :=
  '$' :: '.' :: name

/-- The query of a name between quotes. -/
def quoted (name : Text) : Text :=
  '$' :: '[' :: '\'' :: (name ++ ['\'', ']'])

variable {name rest : Text}

/-! ## Reading -/

theorem IsPlain.segmentText_dotted (hplain : IsPlain name) :
    segmentText (dotted name) = '.' :: name := by
  have htrimmed : Text.IsTrimmed (dotted name) :=
    ⟨fun c hc => Option.some.inj hc ▸ by decide, fun c hc => by
      rw [dotted, List.getLast?_cons_cons, List.getLast?_cons_of_ne_nil hplain.ne_nil] at hc
      exact hplain.isTrimmed.last c hc⟩
  rw [segmentText, htrimmed.trim_eq]
  rfl

theorem splitName_star (rest : Text) : splitName ('*' :: rest) = some (['*'], rest) := rfl

theorem IsPlain.splitName_eq (hplain : IsPlain name) (hstar : name.head? ≠ some '*') :
    splitName name = some (name, []) := by
  have hspan : name.span isNameChar = (name, []) := by
    rw [List.span_eq_takeWhile_dropWhile, List.takeWhile_eq_self_iff.mpr hplain.nameChars,
      List.dropWhile_eq_nil_iff.mpr hplain.nameChars]
  rw [splitName]
  · rw [hspan]
    exact if_neg (by simp [hplain.ne_nil])
  · rintro rest rfl
    exact hstar rfl

/-- Behind a dot that is not followed by another, a name is read. -/
theorem readSegment_dot {text : Text} (hdot : text.head? ≠ some '.') :
    readSegment ('.' :: text) =
      match splitName text with
      | some (name, rest) => .ok ([nameSegment name], rest)
      | none => .error .malformed := by
  unfold readSegment
  split
  · next heq => exact absurd (congrArg List.head? (List.cons.inj heq).2) hdot
  · next heq =>
      obtain rfl := (List.cons.inj heq).2
      rfl
  · next heq => exact absurd (List.cons.inj heq).1 (by decide)
  · next hrest _ => exact (hrest text rfl).elim

theorem IsPlain.head?_ne (hplain : IsPlain name) {c : Char} (hc : isNameChar c = false) :
    name.head? ≠ some c := by
  intro hhead
  rw [hplain.nameChars c (List.mem_of_head? hhead)] at hc
  cases hc

/-- A segment begins with a dot or with an opening bracket. -/
theorem readSegment_eq_error {c : Char} (hdot : c ≠ '.') (hopen : c ≠ '[') (rest : Text) :
    readSegment (c :: rest) = .error .malformed := by
  unfold readSegment
  split
  · next heq => exact absurd (List.cons.inj heq).1 hdot
  · next heq => exact absurd (List.cons.inj heq).1 hdot
  · next heq => exact absurd (List.cons.inj heq).1 hopen
  · rfl

theorem IsPlain.nameSegment_eq (hplain : IsPlain name) :
    nameSegment name = match Text.toInt? name with
      | some position => .index position
      | none => .key name := by
  rw [nameSegment, hplain.isTrimmed.trim_eq]
  exact if_neg hplain.ne_star

theorem IsPlain.read_dotted (hplain : IsPlain name) (hstar : name.head? ≠ some '*') :
    read (dotted name) = .ok [nameSegment name] := by
  rw [read, hplain.segmentText_dotted, List.length_cons, readSegments_succ (List.cons_ne_nil _ _),
    readSegment_dot (hplain.head?_ne (by decide)), hplain.splitName_eq hstar]
  change (do return [nameSegment name] ++ (← readSegments name.length [])) = _
  rw [readSegments]
  rfl

theorem IsPlain.read_dotted_key (hplain : IsPlain name) (hstar : name.head? ≠ some '*')
    (hnumber : Text.toInt? name = none) : read (dotted name) = .ok [.key name] := by
  rw [hplain.read_dotted hstar, hplain.nameSegment_eq, hnumber]

theorem IsPlain.read_dotted_number (hplain : IsPlain name) {position : Int}
    (hnumber : Text.toInt? name = some position) : read (dotted name) = .ok [.index position] := by
  have hstar : name.head? ≠ some '*' := by
    intro hhead
    obtain ⟨rest, rfl⟩ := List.head?_eq_some_iff.mp hhead
    rw [Text.toInt?_eq_none (by decide) (by decide)] at hnumber
    cases hnumber
  rw [hplain.read_dotted hstar, hplain.nameSegment_eq, hnumber]

/-- A star is a segment, and the rest of a name behind it is none. -/
theorem IsPlain.read_dotted_star (hplain : IsPlain name) (hstar : name.head? = some '*') :
    read (dotted name) = .error .malformed := by
  obtain ⟨rest, rfl⟩ := List.head?_eq_some_iff.mp hstar
  cases rest with
  | nil => exact absurd rfl hplain.ne_star
  | cons c rest =>
      have hc : isNameChar c = true :=
        hplain.nameChars c (List.mem_cons_of_mem _ List.mem_cons_self)
      rw [read, hplain.segmentText_dotted, List.length_cons, List.length_cons,
        readSegments_succ (List.cons_ne_nil _ _),
        readSegment_dot (hplain.head?_ne (by decide)), splitName_star]
      change (do
        return [nameSegment ['*']] ++ (← readSegments ((c :: rest).length + 1) (c :: rest))) = _
      have hdot : c ≠ '.' := by rintro rfl; exact absurd hc (by decide)
      have hopen : c ≠ '[' := by rintro rfl; exact absurd hc (by decide)
      rw [readSegments_succ (List.cons_ne_nil _ _), readSegment_eq_error hdot hopen]
      rfl

theorem read_quoted (hquote : '\'' ∉ name) : read (quoted name) = .ok [.key name] := by
  have hwritten : IsWritten [.key name] ('[' :: '\'' :: (name ++ ['\'', ']']) ++ []) :=
    .cons (.key (.inl rfl) hquote) .nil
  rw [List.append_nil] at hwritten
  exact read_of_isWritten hwritten

/-! ## Selecting -/

theorem childNodes_key {fields : List (Text × Json)} {value : Json}
    (hvalue : Table.get? fields name = some value) :
    (Json.object fields).childNodes (.key name) = [([.key name], value)] := by
  have hchild : (Json.object fields).child? (.key name) = some value := hvalue
  rw [Json.childNodes, hchild]

theorem key_of_childNodes_eq {object value : Json} {other : Text}
    (hnodes : object.childNodes (.key other) = [([.key name], value)]) : other = name := by
  unfold Json.childNodes at hnodes
  split at hnodes
  · exact Step.key.inj (List.cons.inj (Prod.mk.inj (List.cons.inj hnodes).1).1).1
  · exact absurd hnodes.symm (List.cons_ne_nil _ _)

end Query

/-- The entry of a name is what its quoted name finds.  The name behind a dot finds the same, and no
more than that, just when it does not begin with a star and is no number but a decimal one.  A name
that begins with a star is no query, and a number finds the entry of its decimal. -/
theorem select_dotted {fields : List (Text × Json)} {name : Text} {value : Json}
    (hvalue : Table.get? fields name = some value) (hplain : Query.IsPlain name) :
    let nodes (query : Text) := (Query.read query).map (Query.select · (.object fields))
    ('\'' ∉ name → nodes (Query.quoted name) = .ok [([.key name], value)]) ∧
    (nodes (Query.dotted name) = .ok [([.key name], value)] ↔
      name.head? ≠ some '*' ∧ ((Text.toInt? name).isSome → Text.IsDecimal name)) ∧
    (name.head? = some '*' → nodes (Query.dotted name) = .error .malformed) ∧
    (∀ position, Text.toInt? name = some position →
      nodes (Query.dotted name) =
        .ok ((Json.object fields).childNodes (.key (Text.ofInt position)))) := by
  intro nodes
  have hnodes {query : Text} {segment : Segment} (hread : Query.read query = .ok [segment]) :
      nodes query = .ok (Query.step segment (.object fields)) := by
    change (Query.read query).map _ = _
    rw [hread]
    exact congrArg Except.ok (Query.select_singleton segment _)
  have hkey : Query.step (.key name) (.object fields) = [([.key name], value)] :=
    Query.childNodes_key hvalue
  have hstarred (hstar : name.head? = some '*') :
      nodes (Query.dotted name) = .error .malformed :=
    congrArg (Except.map _) (hplain.read_dotted_star hstar)
  have hnumbered (position : Int) (hnumber : Text.toInt? name = some position) :
      nodes (Query.dotted name) =
        .ok ((Json.object fields).childNodes (.key (Text.ofInt position))) :=
    hnodes (hplain.read_dotted_number hnumber)
  refine ⟨fun hquote => ?_, ⟨fun hfound => ⟨fun hstar => ?_, fun hsome => ?_⟩, ?_⟩, hstarred,
    hnumbered⟩
  · rw [hnodes (Query.read_quoted hquote), hkey]
  · rw [hstarred hstar] at hfound
    cases hfound
  · obtain ⟨position, hnumber⟩ := Option.isSome_iff_exists.mp hsome
    rw [hnumbered position hnumber] at hfound
    exact (Text.ofInt_eq_iff hnumber).mp (Query.key_of_childNodes_eq (Except.ok.inj hfound))
  · rintro ⟨hstar, hdecimal⟩
    cases hnumber : Text.toInt? name with
    | none => rw [hnodes (hplain.read_dotted_key hstar hnumber), hkey]
    | some position =>
        have hsame := (Text.ofInt_eq_iff hnumber).mpr (hdecimal (by rw [hnumber]; rfl))
        rw [hnumbered position hnumber, hsame, Query.childNodes_key hvalue]

/-- A negative number, which an object can have for a name, beside the name of its digits. -/
theorem select_dotted_negative :
    let fields : List (Text × Json) := [("12", .null), ("-12", .bool true)]
    Query.IsPlain "-12" ∧
      (Query.read "$.-12").map (Query.select · (.object fields)) =
        .ok [([.key "-12"], .bool true)] ∧
      (Query.read "$['-12']").map (Query.select · (.object fields)) =
        .ok [([.key "-12"], .bool true)] := by
  intro fields
  have hplain : Query.IsPlain "-12" :=
    ⟨by decide, ⟨by simp; decide, by simp; decide⟩, by decide, List.all_eq_true.mp rfl⟩
  have hvalue : Table.get? fields "-12" = some (.bool true) := rfl
  have hdecimal : Text.IsDecimal "-12" :=
    .negative (by decide) (List.all_eq_true.mp rfl) (by decide)
  obtain ⟨hquoted, hdotted, -⟩ := select_dotted hvalue hplain
  exact ⟨hplain, hdotted.mpr ⟨by decide, fun _ => hdecimal⟩, hquoted (by decide)⟩

/-- Names that a dot does not reach and quotes do: a number with a zero in front, for which another
entry is found, and a name that begins with a star. -/
theorem select_dotted_astray :
    let fields : List (Text × Json) := [("01", .bool true), ("1", .null), ("*a", .bool false)]
    (Query.IsPlain "01" ∧ Table.get? fields "01" = some (.bool true) ∧
      (Query.read "$.01").map (Query.select · (.object fields)) = .ok [([.key "1"], .null)] ∧
      (Query.read "$['01']").map (Query.select · (.object fields)) =
        .ok [([.key "01"], .bool true)]) ∧
    Query.IsPlain "*a" ∧ Table.get? fields "*a" = some (.bool false) ∧
      Query.read "$.*a" = .error .malformed ∧
      (Query.read "$['*a']").map (Query.select · (.object fields)) =
        .ok [([.key "*a"], .bool false)] := by
  intro fields
  have hnumber : Query.IsPlain "01" :=
    ⟨by decide, ⟨by simp; decide, by simp; decide⟩, by decide, List.all_eq_true.mp rfl⟩
  have hstar : Query.IsPlain "*a" :=
    ⟨by decide, ⟨by simp; decide, by simp; decide⟩, by decide, List.all_eq_true.mp rfl⟩
  exact ⟨⟨hnumber, rfl, rfl, rfl⟩, hstar, rfl, rfl, rfl⟩

end HttpScript
