import HttpScript.Proofs.Table
import HttpScript.Proofs.Text.Lines
import HttpScript.Run.Exchange
import Mathlib.Data.List.Induction
import Mathlib.Data.List.Nodup

/-!
# Headers of one name

A header is looked up without regard to the case of its name, and the transport keeps one header of
a name: the last one that it is given.  The headers of a request are joined before, name by name, so
that none of them is lost (`IsJoined`).  But joining takes names for the same only if they are
spelled the same.  Two spellings of one name stay apart, and the transport drops one of them
(`not_isJoined_of_spellings`).

Both comparisons are treated at once.  Names are compared by a key, which is the name itself or the
name in small letters, and `valuesUnder` lists the values of a name for a key.  A look-up takes the
first of these values (`findHeader_eq_head?`), the transport takes the last one
(`findHeader_responseHeaders`), and joining takes them all (`get?_mergeHeaders`).
-/

namespace HttpScript

namespace Exchange

/-- The values of the headers whose name has the same key as a given one, in their order. -/
def valuesUnder (key : Text → Text) (headers : List (Text × Text)) (name : Text) : List Text :=
  (headers.filter fun header => key header.1 = key name).map Prod.snd

/-- Several values in one; no values are none. -/
def joined? : List Text → Option Text
  | [] => none
  | values => some (Text.join ", " values)

variable {key : Text → Text} {headers : List (Text × Text)} {name : Text}

/-! ## Values of a name -/

theorem valuesUnder_append (key : Text → Text) (headers others : List (Text × Text)) (name : Text) :
    valuesUnder key (headers ++ others) name =
      valuesUnder key headers name ++ valuesUnder key others name := by
  rw [valuesUnder, List.filter_append, List.map_append]
  rfl

theorem valuesUnder_cons (key : Text → Text) (header : Text × Text) (rest : List (Text × Text))
    (name : Text) :
    valuesUnder key (header :: rest) name =
      if key header.1 = key name then header.2 :: valuesUnder key rest name
      else valuesUnder key rest name := by
  by_cases hkey : key header.1 = key name <;> simp [valuesUnder, hkey]

theorem valuesUnder_singleton (key : Text → Text) (header : Text × Text) (name : Text) :
    valuesUnder key [header] name = if key header.1 = key name then [header.2] else [] :=
  valuesUnder_cons key header [] name

theorem valuesUnder_congr {other : Text → Text}
    (hsame : ∀ header ∈ headers, key header.1 = key name ↔ other header.1 = other name) :
    valuesUnder key headers name = valuesUnder other headers name := by
  refine congrArg (List.map Prod.snd) (List.filter_congr fun header hheader => ?_)
  simp only [hsame header hheader]

theorem valuesUnder_eq_nil_iff :
    valuesUnder key headers name = [] ↔ ∀ header ∈ headers, key header.1 ≠ key name := by
  simp [valuesUnder, List.filter_eq_nil_iff]

theorem findHeader_eq_head? (headers : List (Text × Text)) (name : Text) :
    findHeader headers name = (valuesUnder Text.toLower headers name).head? := by
  rw [findHeader, valuesUnder, List.head?_map, List.head?_filter]

theorem get?_eq_head? (table : Table Text) (name : Text) :
    Table.get? table name = (valuesUnder id table name).head? := by
  induction table with
  | nil => rfl
  | cons entry rest ih =>
      obtain ⟨key, value⟩ := entry
      rw [Table.get?, ih]
      by_cases hkey : key = name <;> simp [valuesUnder, hkey]

/-! ## What the transport keeps -/

theorem findHeader_cons (header : Text × Text) (rest : List (Text × Text)) (name : Text) :
    findHeader (header :: rest) name =
      if Text.toLower header.1 = Text.toLower name then some header.2
      else findHeader rest name := by
  by_cases hname : Text.toLower header.1 = Text.toLower name <;>
    simp [findHeader, hname]

theorem findHeader_enterHeader (header : Text × Text) (entered : List (Text × Text)) (name : Text) :
    findHeader (enterHeader header entered) name =
      if Text.toLower header.1 = Text.toLower name then some header.2
      else findHeader entered name := by
  induction entered with
  | nil => rw [enterHeader, findHeader_cons]
  | cons known rest ih =>
      rw [enterHeader]
      by_cases hsame : Text.toLower known.1 = Text.toLower header.1
      · -- the known header is the one that is replaced
        rw [if_pos hsame, findHeader_cons, findHeader_cons, hsame]
        split <;> rfl
      · rw [if_neg hsame, findHeader_cons, ih, findHeader_cons]
        by_cases hname : Text.toLower known.1 = Text.toLower name
        · have hother : Text.toLower header.1 ≠ Text.toLower name :=
            fun heq => hsame (hname.trans heq.symm)
          rw [if_pos hname, if_pos hname, if_neg hother]
        · rw [if_neg hname, if_neg hname]

theorem responseHeaders_append_singleton (headers : List (Text × Text)) (header : Text × Text) :
    responseHeaders (headers ++ [header]) = enterHeader header (responseHeaders headers) := by
  rw [responseHeaders, List.foldl_append]
  rfl

/-- Of several headers of one name, the last one counts. -/
theorem findHeader_responseHeaders (headers : List (Text × Text)) (name : Text) :
    findHeader (responseHeaders headers) name =
      (valuesUnder Text.toLower headers name).getLast? := by
  induction headers using List.reverseRecOn with
  | nil => rfl
  | append_singleton headers header ih =>
      rw [responseHeaders_append_singleton, findHeader_enterHeader, valuesUnder_append,
        valuesUnder_singleton]
      split
      · rw [List.getLast?_concat]
      · rw [List.append_nil, ih]

/-- The names of headers in small letters. -/
def smallNames (headers : List (Text × Text)) : List Text :=
  headers.map fun header => Text.toLower header.1

theorem smallNames_enterHeader (header : Text × Text) (entered : List (Text × Text)) :
    smallNames (enterHeader header entered) =
      if Text.toLower header.1 ∈ smallNames entered then smallNames entered
      else smallNames entered ++ [Text.toLower header.1] := by
  induction entered with
  | nil => simp [enterHeader, smallNames]
  | cons known rest ih =>
      rw [enterHeader]
      by_cases hsame : Text.toLower known.1 = Text.toLower header.1
      · simp [smallNames, hsame]
      · have hcons (others : List (Text × Text)) :
            smallNames (known :: others) = Text.toLower known.1 :: smallNames others := rfl
        rw [if_neg hsame, hcons, hcons, ih]
        by_cases hmem : Text.toLower header.1 ∈ smallNames rest <;> simp [hmem, Ne.symm hsame]

theorem nodup_smallNames_responseHeaders (headers : List (Text × Text)) :
    (smallNames (responseHeaders headers)).Nodup := by
  induction headers using List.reverseRecOn with
  | nil => exact List.nodup_nil
  | append_singleton headers header ih =>
      rw [responseHeaders_append_singleton, smallNames_enterHeader]
      split
      · exact ih
      · next hmem => simpa [List.nodup_append] using ⟨ih, fun name hname heq => hmem (heq ▸ hname)⟩

theorem enterHeader_of_notMem {header : Text × Text} {entered : List (Text × Text)}
    (hnew : Text.toLower header.1 ∉ smallNames entered) :
    enterHeader header entered = entered ++ [header] := by
  induction entered with
  | nil => rfl
  | cons known rest ih =>
      rw [smallNames, List.map_cons, List.mem_cons, not_or] at hnew
      rw [enterHeader, if_neg (Ne.symm hnew.1), ih hnew.2]
      rfl

/-- Headers with names of their own are kept as they are. -/
theorem responseHeaders_eq_self (hnodup : (smallNames headers).Nodup) :
    responseHeaders headers = headers := by
  induction headers using List.reverseRecOn with
  | nil => rfl
  | append_singleton headers header ih =>
      rw [smallNames, List.map_append, List.nodup_append] at hnodup
      obtain ⟨hheaders, -, hapart⟩ := hnodup
      rw [responseHeaders_append_singleton, ih hheaders]
      apply enterHeader_of_notMem
      intro hmem
      exact hapart _ hmem _ (List.mem_singleton_self _) rfl

/-! ## Joined headers -/

theorem mergeHeaders_append_singleton (headers : List (Text × Text)) (header : Text × Text) :
    mergeHeaders (headers ++ [header]) = joinHeader (mergeHeaders headers) header := by
  rw [mergeHeaders, List.foldl_append]
  rfl

theorem joined?_concat (values : List Text) (value : Text) :
    joined? (values ++ [value]) = some (match joined? values with
      | some before => before ++ ", " ++ value
      | none => value) := by
  cases values with
  | nil => exact congrArg some List.intercalate_singleton
  | cons first rest => exact congrArg some (Text.join_concat (List.cons_ne_nil first rest) _ _)

theorem joined?_eq_none_iff {values : List Text} : joined? values = none ↔ values = [] := by
  cases values <;> simp [joined?]

/-- Under a name stand the values of all headers that are spelled like it. -/
theorem get?_mergeHeaders (headers : List (Text × Text)) (name : Text) :
    Table.get? (mergeHeaders headers) name = joined? (valuesUnder id headers name) := by
  induction headers using List.reverseRecOn with
  | nil => rfl
  | append_singleton headers header ih =>
      rw [mergeHeaders_append_singleton, joinHeader, valuesUnder_append, valuesUnder_singleton]
      by_cases hname : header.1 = name
      · subst hname
        rw [if_pos rfl, joined?_concat, ← ih]
        cases hmerged : Table.get? (mergeHeaders headers) header.1 <;> simp
      · have hid : id header.1 ≠ id name := hname
        rw [if_neg hid, List.append_nil, ← ih]
        split <;> simp [hname]

theorem nodup_names_mergeHeaders (headers : List (Text × Text)) :
    (Table.names (mergeHeaders headers)).Nodup := by
  induction headers using List.reverseRecOn with
  | nil => exact List.nodup_nil
  | append_singleton headers header ih =>
      rw [mergeHeaders_append_singleton, joinHeader]
      split <;> exact Table.nodup_names_set ih _ _

theorem mem_names_mergeHeaders :
    name ∈ Table.names (mergeHeaders headers) ↔ ∃ header ∈ headers, header.1 = name := by
  rw [← Table.isSome_get?_iff, get?_mergeHeaders, ← Option.ne_none_iff_isSome, Ne,
    joined?_eq_none_iff, valuesUnder_eq_nil_iff]
  simp

/-! ## Nothing is lost -/

/-- Every name stands once, whatever its case, and with all its values. -/
structure IsJoined (headers joined : List (Text × Text)) : Prop where
  nodup : (smallNames joined).Nodup
  values : ∀ name, findHeader joined name = joined? (valuesUnder Text.toLower headers name)

/-- Names that are the same but for their case are spelled the same. -/
def SpelledAlike (headers : List (Text × Text)) : Prop :=
  ∀ header ∈ headers, ∀ other ∈ headers,
    Text.toLower header.1 = Text.toLower other.1 → header.1 = other.1

theorem nodup_smallNames_mergeHeaders_iff :
    (smallNames (mergeHeaders headers)).Nodup ↔ SpelledAlike headers := by
  have hnames : smallNames (mergeHeaders headers) =
      (Table.names (mergeHeaders headers)).map Text.toLower := by
    simp [smallNames, Table.names, Function.comp_def]
  rw [hnames]
  constructor
  · intro hnodup header hheader other hother heq
    exact List.inj_on_of_nodup_map hnodup (mem_names_mergeHeaders.mpr ⟨header, hheader, rfl⟩)
      (mem_names_mergeHeaders.mpr ⟨other, hother, rfl⟩) heq
  · intro halike
    refine (nodup_names_mergeHeaders headers).map_on fun name hname other hother heq => ?_
    obtain ⟨header, hheader, rfl⟩ := mem_names_mergeHeaders.mp hname
    obtain ⟨otherHeader, hotherHeader, rfl⟩ := mem_names_mergeHeaders.mp hother
    exact halike header hheader otherHeader hotherHeader heq

/-- With one spelling of each name it makes no difference which of the two ways names are
compared. -/
theorem SpelledAlike.valuesUnder_toLower (halike : SpelledAlike headers)
    {others : List (Text × Text)}
    (hothers : ∀ other ∈ others, ∃ header ∈ headers, header.1 = other.1)
    {header : Text × Text} (hheader : header ∈ headers) :
    valuesUnder Text.toLower others header.1 = valuesUnder id others header.1 := by
  apply valuesUnder_congr
  intro other hother
  obtain ⟨known, hknown, hname⟩ := hothers other hother
  rw [← hname]
  exact ⟨halike known hknown header hheader, congrArg Text.toLower⟩

theorem SpelledAlike.findHeader_mergeHeaders (halike : SpelledAlike headers) (name : Text) :
    findHeader (mergeHeaders headers) name =
      joined? (valuesUnder Text.toLower headers name) := by
  have hentries : ∀ entry ∈ mergeHeaders headers, ∃ header ∈ headers, header.1 = entry.1 :=
    fun entry hentry => mem_names_mergeHeaders.mp (List.mem_map_of_mem hentry)
  by_cases hspelled : ∃ header ∈ headers, Text.toLower header.1 = Text.toLower name
  · obtain ⟨header, hheader, hname⟩ := hspelled
    have hvalues (others : List (Text × Text)) :
        valuesUnder Text.toLower others name = valuesUnder Text.toLower others header.1 := by
      rw [valuesUnder, valuesUnder, hname]
    calc findHeader (mergeHeaders headers) name
        = (valuesUnder id (mergeHeaders headers) header.1).head? := by
          rw [findHeader_eq_head?, hvalues, halike.valuesUnder_toLower hentries hheader]
      _ = joined? (valuesUnder id headers header.1) := by
          rw [← get?_eq_head?, get?_mergeHeaders]
      _ = joined? (valuesUnder Text.toLower headers name) := by
          have hself : ∀ other ∈ headers, ∃ known ∈ headers, known.1 = other.1 :=
            fun other hother => ⟨other, hother, rfl⟩
          rw [hvalues, halike.valuesUnder_toLower hself hheader]
  · have hnone : valuesUnder Text.toLower headers name = [] :=
      valuesUnder_eq_nil_iff.mpr fun header hheader hname => hspelled ⟨header, hheader, hname⟩
    have hmerged : valuesUnder Text.toLower (mergeHeaders headers) name = [] := by
      refine valuesUnder_eq_nil_iff.mpr fun entry hentry hname => ?_
      obtain ⟨header, hheader, heq⟩ := hentries entry hentry
      exact hspelled ⟨header, hheader, heq ▸ hname⟩
    rw [findHeader_eq_head?, hmerged, hnone]
    rfl

theorem isJoined_mergeHeaders_iff :
    IsJoined headers (mergeHeaders headers) ↔ SpelledAlike headers := by
  constructor
  · intro hjoined
    exact nodup_smallNames_mergeHeaders_iff.mp hjoined.nodup
  · intro halike
    exact ⟨nodup_smallNames_mergeHeaders_iff.mpr halike, halike.findHeader_mergeHeaders⟩

theorem responseHeaders_mergeHeaders_iff :
    responseHeaders (mergeHeaders headers) = mergeHeaders headers ↔ SpelledAlike headers := by
  rw [← nodup_smallNames_mergeHeaders_iff]
  constructor
  · intro hkept
    rw [← hkept]
    exact nodup_smallNames_responseHeaders _
  · exact responseHeaders_eq_self

/-- The headers of a request go over the wire with the values of each spelling joined.  That joins
all values of every name just if no name has two spellings, and just then the transport, which
enters what it is given like the headers of a response, keeps everything.  Otherwise the values of
the last spelling are all that is left of a name. -/
theorem isJoined_wireRequest_iff (call : Call) :
    let sent := (wireRequest call).headers
    (Table.names sent).Nodup ∧
    (∀ name, Table.get? sent name = joined? (valuesUnder id call.headers name)) ∧
    (IsJoined call.headers sent ↔ SpelledAlike call.headers) ∧
    (responseHeaders sent = sent ↔ SpelledAlike call.headers) ∧
    ∀ name, findHeader (responseHeaders sent) name =
      (valuesUnder Text.toLower sent name).getLast? :=
  ⟨nodup_names_mergeHeaders call.headers, get?_mergeHeaders call.headers, isJoined_mergeHeaders_iff,
    responseHeaders_mergeHeaders_iff, findHeader_responseHeaders _⟩

/-- Two spellings of one name: both are sent, and the transport drops the first value. -/
theorem not_isJoined_of_spellings :
    let headers : List (Text × Text) := [("X-A", "1"), ("x-a", "2")]
    let call : Call := ⟨⟨"GET", "http://a", headers, none⟩, 30⟩
    (wireRequest call).headers = headers ∧
      ¬ IsJoined call.headers (wireRequest call).headers ∧
      joined? (valuesUnder Text.toLower call.headers "X-A") = some "1, 2".toList ∧
      findHeader (responseHeaders (wireRequest call).headers) "X-A" = some "2".toList := by
  intro headers call
  refine ⟨by decide, fun hjoined => ?_, by decide, by decide⟩
  exact absurd hjoined.nodup (by decide)

end Exchange

end HttpScript
