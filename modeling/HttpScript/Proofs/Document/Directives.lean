import HttpScript.Proofs.Document.Faults
import HttpScript.Proofs.Document.Preambles
import HttpScript.Proofs.Document.Sections
import HttpScript.Proofs.Table

/-!
# What the directives of a block come to

The directives of a block stand in comments before its request line, and each of them is converted
when it is met.  What they come to can be said of all of them at once (`IsFold`): the values of
`expect` and of `ignore` are gathered in order, of any other name the last value counts, `name` may
be given once, and the names are kept in the order in which they first occur.

One directive added keeps this (`IsFold.add`), and so does the reader on its way to the request
line.  A directive that cannot be converted, or a second `name`, is the fault of the document if
nothing above it is at fault, whatever stands below.
-/

namespace HttpScript

/-- A directive with the value to which it is converted. -/
structure Given where
  marked : LineForm.Marked
  value : DirectiveValue
  converts : DirectiveValue.read marked.name marked.value? = .ok value

namespace DirectiveValue

/-- The expectations in a value. -/
def expected : DirectiveValue → List Expectation
  | .expectations all => all
  | _ => []

/-- The paths in a value. -/
def ignored : DirectiveValue → List Text
  | .paths all => all
  | _ => []

/-- The expectations that a status stands for. -/
def implied : DirectiveValue → List Expectation
  | .status code reason =>
      ⟨"$.response.status", .int code⟩ ::
        (reason.map fun text => ⟨"$.response.statusText", .str text⟩).toList
  | _ => []

end DirectiveValue

/-- The directives of a name, in order. -/
def named (name : Text) (given : List Given) : List Given :=
  given.filter fun directive => directive.marked.name = name

/-- What directives come to under a name. -/
def entryOf? (given : List Given) (name : Text) : Option DirectiveEntry :=
  (named name given).getLast?.map fun last =>
    if name = "expect".toList then
      ⟨.expectations ((named name given).flatMap fun directive => directive.value.expected), false⟩
    else if name = "ignore".toList then
      ⟨.paths ((named name given).flatMap fun directive => directive.value.ignored), false⟩
    else ⟨last.value, last.marked.isGlobal⟩

/-- How the directives of a block are what was given: under every name what was given under it, the
names in the order in which they first occur, and `name` at most once. -/
structure IsFold (directives : Directives) (given : List Given) : Prop where
  names : Table.names directives = (given.map fun directive => directive.marked.name).eraseDups
  entries : ∀ name, Table.get? directives name = entryOf? given name
  single : (named "name" given).length ≤ 1

/-! ## Conversion -/

namespace DirectiveValue

variable {name : Text} {written : Option Text} {value : DirectiveValue}

theorem exists_of_read_expect (hread : read "expect" written = .ok value) :
    ∃ expectation, value = .expectations [expectation] := by
  have hreader : readExpectation written = .ok value := hread
  unfold readExpectation at hreader
  dsimp only at hreader
  split at hreader
  · cases hreader
  · split at hreader
    · exact ⟨_, (Except.ok.inj hreader).symm⟩
    · cases hreader

theorem exists_of_read_ignore (hread : read "ignore" written = .ok value) :
    ∃ path, value = .paths [path] := by
  have hreader : readPath written = .ok value := hread
  unfold readPath at hreader
  split at hreader
  · exact ⟨_, (Except.ok.inj hreader).symm⟩
  · cases hreader

theorem isGathered_readName (hread : readName written = .ok value) : value.isGathered = false := by
  unfold readName at hread
  split at hread
  · split at hread
    · rw [← Except.ok.inj hread]
      rfl
    · cases hread
  · cases hread

theorem isGathered_readFlag (hread : readFlag written = .ok value) : value.isGathered = false := by
  unfold readFlag at hread
  dsimp only at hread
  split at hread
  · rw [← Except.ok.inj hread]
    rfl
  · split at hread
    · rw [← Except.ok.inj hread]
      rfl
    · split at hread
      · rw [← Except.ok.inj hread]
        rfl
      · cases hread

theorem isGathered_readStatus (hread : readStatus written = .ok value) :
    value.isGathered = false := by
  unfold readStatus at hread
  dsimp only at hread
  split at hread
  · rw [← Except.ok.inj hread]
    rfl
  · cases hread

theorem isGathered_readPattern (hread : readPattern written = .ok value) :
    value.isGathered = false := by
  unfold readPattern at hread
  split at hread
  · cases hread
  · split at hread
    · rw [← Except.ok.inj hread]
      rfl
    · cases hread

/-- Only the values of `expect` and of `ignore` are gathered. -/
theorem isGathered_eq_false (hread : read name written = .ok value)
    (hexpect : name ≠ "expect".toList) (hignore : name ≠ "ignore".toList) :
    value.isGathered = false := by
  unfold read at hread
  cases hreader : readers.lookup name with
  | none =>
      rw [hreader] at hread
      obtain rfl := Except.ok.inj hread
      cases written <;> rfl
  | some reader =>
      rw [hreader] at hread
      obtain ⟨before, after, hreaders, -⟩ := List.lookup_eq_some_iff.mp hreader
      have hmem : (name, reader) ∈ readers := by simp [hreaders]
      simp only [readers, List.mem_cons, Prod.mk.injEq, List.not_mem_nil, or_false] at hmem
      rcases hmem with ⟨-, rfl⟩ | ⟨-, rfl⟩ | ⟨-, rfl⟩ | ⟨hname, -⟩ | ⟨-, rfl⟩ | ⟨hname, -⟩ |
        ⟨-, rfl⟩ | ⟨-, rfl⟩
      · exact isGathered_readName hread
      · exact isGathered_readFlag hread
      · exact isGathered_readFlag hread
      · exact absurd hname hexpect
      · exact isGathered_readStatus hread
      · exact absurd hname hignore
      · exact isGathered_readPattern hread
      · dsimp only at hread
        split at hread
        · rw [← Except.ok.inj hread]
          rfl
        · exact isGathered_readPattern hread

end DirectiveValue

/-! ## Adding a directive -/

namespace Directives

variable {directives : Directives} {name : Text} {written : Option Text}
  {value : DirectiveValue} {isGlobal : Bool}

theorem add_of_error {problem : DirectiveProblem}
    (hread : DirectiveValue.read name written = .error problem) :
    directives.add name written isGlobal = .error problem := by
  rw [add, hread]
  rfl

theorem add_new (hread : DirectiveValue.read name written = .ok value)
    (hnone : Table.get? directives name = none) :
    directives.add name written isGlobal =
      .ok (Table.set directives name ⟨value, isGlobal && !value.isGathered⟩) := by
  rw [add, hread, hnone]
  rfl

theorem add_again {old : DirectiveEntry} (hread : DirectiveValue.read name written = .ok value)
    (hold : Table.get? directives name = some old) :
    directives.add name written isGlobal =
      if value.isGathered then
        .ok (Table.set directives name { old with value := old.value.gather value })
      else if name = "name".toList then .error .secondName
      else .ok (Table.set directives name ⟨value, isGlobal⟩) := by
  rw [add, hread, hold]
  rfl

theorem expectations_eq (directives : Directives) :
    directives.expectations =
      ((directives.value? "expect").map DirectiveValue.expected).getD [] := by
  rw [expectations]
  cases directives.value? "expect" with
  | none => rfl
  | some value => cases value <;> rfl

theorem statusExpectations_eq (directives : Directives) :
    directives.statusExpectations =
      ((directives.value? "status").map DirectiveValue.implied).getD [] := by
  rw [statusExpectations]
  cases directives.value? "status" with
  | none => rfl
  | some value => cases value <;> rfl

end Directives

namespace IsFold

variable {directives : Directives} {given : List Given}

theorem nil : IsFold [] [] where
  names := rfl
  entries := fun _ => rfl
  single := Nat.zero_le 1

theorem named_concat (given : List Given) (directive : Given) :
    named directive.marked.name (given ++ [directive]) =
      named directive.marked.name given ++ [directive] := by
  rw [named, List.filter_append, List.filter_singleton]
  simp [named]

theorem named_concat_of_ne {directive : Given} {name : Text}
    (hname : directive.marked.name ≠ name) :
    named name (given ++ [directive]) = named name given := by
  rw [named, List.filter_append, List.filter_singleton]
  simp [hname, named]

/-- What a directive comes to with those of its name that were given before. -/
theorem entryOf?_concat (given : List Given) (directive : Given) :
    entryOf? (given ++ [directive]) directive.marked.name = some
      (if directive.marked.name = "expect".toList then
        ⟨.expectations ((named directive.marked.name given).flatMap (fun other =>
          other.value.expected) ++ directive.value.expected), false⟩
      else if directive.marked.name = "ignore".toList then
        ⟨.paths ((named directive.marked.name given).flatMap (fun other =>
          other.value.ignored) ++ directive.value.ignored), false⟩
      else ⟨directive.value, directive.marked.isGlobal⟩) := by
  simp only [entryOf?, named_concat, List.getLast?_concat, Option.map_some, List.flatMap_append,
    List.flatMap_singleton]

theorem eraseDups_concat (names : List Text) (name : Text) :
    (names ++ [name]).eraseDups =
      if name ∈ names then names.eraseDups else names.eraseDups ++ [name] := by
  rw [List.eraseDups_append]
  by_cases hmem : name ∈ names <;> simp [List.removeAll, List.eraseDups_cons, hmem]

/-- A directive is entered with what it comes to; the other names keep what they come to. -/
theorem set {directive : Given} (hfold : IsFold directives given) {entry : DirectiveEntry}
    (hentry : entryOf? (given ++ [directive]) directive.marked.name = some entry)
    (hsingle : directive.marked.name = "name".toList → named "name" given = []) :
    IsFold (Table.set directives directive.marked.name entry) (given ++ [directive]) where
  names := by
    rw [List.map_append, List.map_singleton, eraseDups_concat, ← hfold.names]
    split
    · next hgiven =>
        rw [← List.mem_eraseDups, ← hfold.names] at hgiven
        exact Table.names_set_of_mem hgiven entry
    · next hgiven =>
        rw [← List.mem_eraseDups, ← hfold.names] at hgiven
        rw [Table.set_append_of_notMem hgiven]
        exact List.map_append
  entries := by
    intro name
    rw [Table.get?_set]
    by_cases hname : directive.marked.name = name
    · rw [if_pos hname, ← hname, hentry]
    · rw [if_neg hname, hfold.entries, entryOf?, entryOf?, named_concat_of_ne hname]
  single := by
    by_cases hname : directive.marked.name = "name".toList
    · rw [← hname, named_concat, hname, hsingle hname]
      exact Nat.le_refl 1
    · rw [named_concat_of_ne hname]
      exact hfold.single

theorem named_eq_nil (hfold : IsFold directives given) {name : Text}
    (hnone : Table.get? directives name = none) : named name given = [] := by
  rw [hfold.entries, entryOf?, Option.map_eq_none_iff, List.getLast?_eq_none_iff] at hnone
  exact hnone

/-- A value that is gathered is added to those that were given before. -/
theorem add_gathered (hfold : IsFold directives given) {name : Text} {written : Option Text}
    {isGlobal : Bool} {value before : DirectiveValue}
    (hread : DirectiveValue.read name written = .ok value) (hgathered : value.isGathered = true)
    (hbefore : entryOf? given name = (named name given).getLast?.map fun _ => ⟨before, false⟩)
    (hfirst : named name given = [] → before.gather value = value) :
    directives.add name written isGlobal =
      .ok (Table.set directives name ⟨before.gather value, false⟩) := by
  cases hold : Table.get? directives name with
  | none =>
      rw [Directives.add_new hread hold, hgathered, hfirst (hfold.named_eq_nil hold),
        Bool.not_true, Bool.and_false]
  | some old =>
      have hentry := (hfold.entries name).symm.trans hold
      obtain ⟨last, -, rfl⟩ := Option.map_eq_some_iff.mp (hbefore.symm.trans hentry)
      rw [Directives.add_again hread hold, if_pos hgathered]

theorem add_expect (hfold : IsFold directives given) {written : Option Text} {isGlobal : Bool}
    {value : DirectiveValue} (hread : DirectiveValue.read "expect" written = .ok value) :
    directives.add "expect" written isGlobal = .ok (Table.set directives "expect"
      ⟨.expectations ((named "expect" given).flatMap (fun other => other.value.expected) ++
        value.expected), false⟩) := by
  obtain ⟨expectation, rfl⟩ := DirectiveValue.exists_of_read_expect hread
  refine hfold.add_gathered hread rfl rfl fun hnil => ?_
  rw [hnil]
  rfl

theorem add_ignore (hfold : IsFold directives given) {written : Option Text} {isGlobal : Bool}
    {value : DirectiveValue} (hread : DirectiveValue.read "ignore" written = .ok value) :
    directives.add "ignore" written isGlobal = .ok (Table.set directives "ignore"
      ⟨.paths ((named "ignore" given).flatMap (fun other => other.value.ignored) ++
        value.ignored), false⟩) := by
  obtain ⟨path, rfl⟩ := DirectiveValue.exists_of_read_ignore hread
  refine hfold.add_gathered hread rfl rfl fun hnil => ?_
  rw [hnil]
  rfl

/-- One directive more. -/
theorem add {added : Directives} {marked : LineForm.Marked} (hfold : IsFold directives given)
    (hadd : directives.add marked.name marked.value? marked.isGlobal = .ok added) :
    ∃ directive : Given, directive.marked = marked ∧ IsFold added (given ++ [directive]) := by
  cases hread : DirectiveValue.read marked.name marked.value? with
  | error problem =>
      rw [Directives.add_of_error hread] at hadd
      cases hadd
  | ok value =>
      refine ⟨⟨marked, value, hread⟩, rfl, ?_⟩
      have hentry := entryOf?_concat given ⟨marked, value, hread⟩
      obtain ⟨isGlobal, name, rest⟩ := marked
      dsimp only at hread hadd hentry
      by_cases hexpect : name = "expect".toList
      · subst hexpect
        rw [hfold.add_expect hread] at hadd
        obtain rfl := Except.ok.inj hadd
        have hother : "expect".toList ≠ "name".toList := by decide
        exact hfold.set hentry fun hname => absurd hname hother
      by_cases hignore : name = "ignore".toList
      · subst hignore
        rw [hfold.add_ignore hread] at hadd
        obtain rfl := Except.ok.inj hadd
        have hother : "ignore".toList ≠ "name".toList := by decide
        exact hfold.set hentry fun hname => absurd hname hother
      · -- under any other name the last value counts, and a second `name` is refused
        have hgathered := DirectiveValue.isGathered_eq_false hread hexpect hignore
        rw [if_neg hexpect, if_neg hignore] at hentry
        cases hold : Table.get? directives name with
        | none =>
            rw [Directives.add_new hread hold, hgathered, Bool.not_false, Bool.and_true] at hadd
            obtain rfl := Except.ok.inj hadd
            exact hfold.set hentry fun hname => hname ▸ hfold.named_eq_nil hold
        | some old =>
            rw [Directives.add_again hread hold, hgathered, if_neg Bool.false_ne_true] at hadd
            split at hadd
            · cases hadd
            · next hname =>
                obtain rfl := Except.ok.inj hadd
                exact hfold.set hentry fun heq => absurd heq hname

/-- A second name is refused. -/
theorem add_second (hfold : IsFold directives given) {directive : Given}
    (hmem : directive ∈ given) (hname : directive.marked.name = "name".toList)
    {written : Option Text} {isGlobal : Bool} {value : DirectiveValue}
    (hread : DirectiveValue.read "name" written = .ok value) :
    directives.add "name" written isGlobal = .error .secondName := by
  cases hold : Table.get? directives "name" with
  | none =>
      have hnamed : directive ∈ named "name" given :=
        List.mem_filter.mpr ⟨hmem, decide_eq_true hname⟩
      rw [hfold.named_eq_nil hold] at hnamed
      cases hnamed
  | some old =>
      have hgathered := DirectiveValue.isGathered_eq_false hread (by decide) (by decide)
      rw [Directives.add_again hread hold, hgathered]
      rfl

/-- The expectations of a request: those that are gathered, then those of the last status. -/
theorem expectations_eq (hfold : IsFold directives given) :
    directives.expectations ++ directives.statusExpectations =
      ((named "expect" given).flatMap fun directive => directive.value.expected) ++
        ((named "status" given).getLast?.map fun last => last.value.implied).getD [] := by
  have hexpect : directives.value? "expect" = (named "expect" given).getLast?.map fun _ =>
      .expectations ((named "expect" given).flatMap fun directive => directive.value.expected) := by
    rw [Directives.value?, hfold.entries, entryOf?, Option.map_map]
    rfl
  have hstatus : directives.value? "status" = (named "status" given).getLast?.map Given.value := by
    rw [Directives.value?, hfold.entries, entryOf?, Option.map_map]
    rfl
  rw [Directives.expectations_eq, Directives.statusExpectations_eq, hexpect, hstatus,
    Option.map_map, Option.map_map]
  cases hlast : (named "expect" given).getLast? with
  | none =>
      rw [List.getLast?_eq_none_iff.mp hlast]
      rfl
  | some last => rfl

end IsFold

namespace Document

/-! ## The directives of a block -/

/-- What a block comes to.  The directives before its request line, or in the whole block if there
is no request, are folded. -/
inductive IsReadFrom : List Line → Option Record → Prop
  | request {preamble rest : List Line} {line : Line} {request : Request} {given : List Given}
      (hpreamble : ∀ other ∈ preamble, other.isPreamble = true) (hline : line.isPreamble = false)
      (hnumber : request.line = line.number)
      (hgiven : given.map Given.marked = preamble.filterMap Line.directive?)
      (hfold : IsFold request.directives given)
      (hexpectations : request.expectations =
        ((named "expect" given).flatMap fun directive => directive.value.expected) ++
          ((named "status" given).getLast?.map fun last => last.value.implied).getD []) :
      IsReadFrom (preamble ++ line :: rest) (some (.request request))
  | bare {preamble : List Line} {block : Block} {given : List Given}
      (hpreamble : ∀ other ∈ preamble, other.isPreamble = true)
      (hgiven : given.map Given.marked = preamble.filterMap Line.directive?)
      (hfold : IsFold block.directives given) : IsReadFrom preamble (bareRecord block)

/-- One line more before a request. -/
theorem exists_isFold_of_enter {block next : Block} {line : Line} {given : List Given}
    (hfold : IsFold block.directives given) (henter : block.enter line = .ok next) :
    ∃ more : List Given, more.map Given.marked = line.directive?.toList ∧
      IsFold next.directives (given ++ more) := by
  unfold Block.enter at henter
  cases hdirective : line.directive? with
  | none =>
      rw [hdirective] at henter
      refine ⟨[], rfl, ?_⟩
      rw [List.append_nil]
      dsimp only at henter
      split at henter <;> obtain rfl := Except.ok.inj henter <;> exact hfold
  | some marked =>
      rw [hdirective] at henter
      obtain ⟨directives, hadd, rfl⟩ : ∃ directives,
          block.directives.add marked.name marked.value? marked.isGlobal = .ok directives ∧
            { block with directives } = next := by
        dsimp only at henter
        cases hadd : block.directives.add marked.name marked.value? marked.isGlobal with
        | error problem =>
            rw [hadd] at henter
            cases henter
        | ok directives =>
            rw [hadd] at henter
            exact ⟨directives, rfl, Except.ok.inj henter⟩
      obtain ⟨directive, rfl, hadded⟩ := hfold.add hadd
      exact ⟨[directive], rfl, hadded⟩

/-- The lines up to the request line, and what their directives come to with those given before. -/
theorem exists_isFold_of_readPreamble {block stopped : Block} {lines left : List Line}
    {given : List Given} (hfold : IsFold block.directives given)
    (hread : readPreamble block lines = .ok (stopped, left)) :
    ∃ preamble more, lines = preamble ++ left ∧ (∀ other ∈ preamble, other.isPreamble = true) ∧
      (∀ line ∈ left.head?, line.isPreamble = false) ∧
      more.map Given.marked = preamble.filterMap Line.directive? ∧
      IsFold stopped.directives (given ++ more) := by
  induction lines generalizing block given with
  | nil =>
      obtain ⟨rfl, rfl⟩ := Prod.mk.inj (Except.ok.inj hread)
      refine ⟨[], [], rfl, List.forall_mem_nil _, fun other hother => ?_, rfl, ?_⟩
      · cases hother
      · rwa [List.append_nil]
  | cons line rest ih =>
      cases hline : line.isPreamble with
      | false =>
          rw [halts_of_isPreamble_eq_false hline block] at hread
          obtain ⟨rfl, rfl⟩ := Prod.mk.inj (Except.ok.inj hread)
          refine ⟨[], [], rfl, List.forall_mem_nil _, fun other hother => ?_, rfl, ?_⟩
          · rwa [← Option.some.inj hother]
          · rwa [List.append_nil]
      | true =>
          rw [readPreamble_cons hline] at hread
          cases henter : block.enter line with
          | error problem =>
              rw [henter] at hread
              cases hread
          | ok next =>
              rw [henter] at hread
              obtain ⟨first, hfirst, hnext⟩ := exists_isFold_of_enter hfold henter
              obtain ⟨preamble, more, rfl, hpreamble, hleft, hmore, hstopped⟩ := ih hnext hread
              refine ⟨line :: preamble, first ++ more, rfl,
                List.forall_mem_cons.mpr ⟨hline, hpreamble⟩, hleft, ?_, ?_⟩
              · rw [List.map_append, hfirst, hmore, List.filterMap_cons]
                cases line.directive? <;> rfl
              · rwa [← List.append_assoc]

/-! ## Blocks -/

/-- A block without a separator in it is read to its end. -/
theorem isReadFrom_of_readRecord {first : Line} {rest left : List Line} {record : Option Record}
    (hopen : ∀ line ∈ first :: rest, line.isSeparator = false)
    (hread : readRecord first rest = .ok (record, left)) :
    IsReadFrom (first :: rest) record ∧ left = [] := by
  obtain ⟨block, after, hpreamble, hread⟩ := readRecord_eq_ok hread
  obtain ⟨preamble, given, hlines, hpassed, hafter, hgiven, hfold⟩ :=
    exists_isFold_of_readPreamble .nil hpreamble
  rw [List.nil_append] at hfold
  rw [hlines] at hopen ⊢
  obtain ⟨rfl, ⟨rfl, rfl⟩ | ⟨separator, rfl, hseparator⟩⟩ |
    ⟨line, others, request, remaining, rfl, -, hrequest, rfl, rfl⟩ := hread
  · rw [List.append_nil]
    exact ⟨.bare hpassed hgiven hfold, rfl⟩
  · rw [hopen separator (List.mem_append_right _ List.mem_cons_self)] at hseparator
    cases hseparator
  · obtain ⟨hnumber, -, -, -, hdirectives⟩ := readRequest_eq_ok hrequest
    rw [← hdirectives] at hfold
    refine ⟨.request hpassed (hafter line rfl) hnumber hgiven hfold hfold.expectations_eq, ?_⟩
    -- a body ends at a separator, and there is none
    cases remaining with
    | nil => rfl
    | cons separator behind =>
        have hmem : separator ∈ others := (readRequest_suffix hrequest).subset List.mem_cons_self
        have hseparator := isSeparator_of_readRequest hrequest separator rfl
        rw [hopen separator (List.mem_append_right _ (List.mem_cons_of_mem _ hmem))] at hseparator
        cases hseparator

theorem exists_isReadFrom {own : List Line} {records : List Record}
    (hopen : ∀ line ∈ own, line.isSeparator = false)
    (hread : readRecords own = (records, none)) :
    ∃ record, IsReadFrom own record ∧ record.toList = records := by
  cases own with
  | nil =>
      rw [readRecords] at hread
      obtain ⟨rfl, -⟩ := Prod.mk.inj hread
      have hbare : IsReadFrom [] (bareRecord (Block.start 0)) :=
        .bare (List.forall_mem_nil _) rfl .nil
      exact ⟨_, hbare, rfl⟩
  | cons first rest =>
      obtain ⟨record, left, others, hrecord, hothers, rfl⟩ := readRecords_cons_iff.mp hread
      obtain ⟨hrecordFrom, rfl⟩ := isReadFrom_of_readRecord hopen hrecord
      rw [readRecords] at hothers
      obtain ⟨rfl, -⟩ := Prod.mk.inj hothers
      exact ⟨record, hrecordFrom, (List.append_nil _).symm⟩

/-- The blocks between the separators are read one by one. -/
theorem exists_forall₂_isReadFrom {own lines : List Line} {records : List Record}
    (hopen : ∀ line ∈ own, line.isSeparator = false)
    (hread : readRecords (own ++ lines) = (records, none)) :
    ∃ found, List.Forall₂ IsReadFrom ((own ++ lines).splitOnP Line.isSeparator) found ∧
      records = found.reduceOption := by
  induction lines generalizing own records with
  | nil =>
      rw [List.append_nil] at hread ⊢
      obtain ⟨record, hrecord, rfl⟩ := exists_isReadFrom hopen hread
      rw [List.splitOnP_eq_singleton hopen]
      exact ⟨[record], .cons hrecord .nil, by cases record <;> rfl⟩
  | cons line rest ih =>
      cases hseparator : line.isSeparator with
      | true =>
          obtain ⟨_, second, hown, hrest, rfl⟩ := (readRecords_append_iff hseparator rest).mp hread
          obtain ⟨record, hrecord, rfl⟩ := exists_isReadFrom hopen hown
          obtain ⟨found, hfound, rfl⟩ := ih (List.forall_mem_nil _) hrest
          rw [List.splitOnP_append_cons_of_forall_mem hopen line hseparator]
          exact ⟨record :: found, .cons hrecord hfound, by cases record <;> rfl⟩
      | false =>
          -- the line belongs to the block that is open
          rw [List.append_cons] at hread ⊢
          refine ih (fun other hother => ?_) hread
          rcases List.mem_append.mp hother with hother | hother
          · exact hopen other hother
          · rwa [List.mem_singleton.mp hother]

/-! ## The first fault of a directive -/

/-- What is wrong with a directive below others of its block. -/
inductive IsFaulty (above : List Line) (marked : LineForm.Marked) : DirectiveProblem → Prop
  | notConverted {problem : DirectiveProblem}
      (hread : DirectiveValue.read marked.name marked.value? = .error problem) :
      IsFaulty above marked problem
  | second {value : DirectiveValue} {line : Line} {other : LineForm.Marked}
      (hread : DirectiveValue.read marked.name marked.value? = .ok value)
      (hname : marked.name = "name".toList) (hline : line ∈ above)
      (hother : line.directive? = some other) (hotherName : other.name = "name".toList) :
      IsFaulty above marked .secondName

/-- A faulty directive is rejected behind the lines above it in its block. -/
theorem rejects_of_isFaulty {own : List Line} {line : Line} {marked : LineForm.Marked}
    {problem : DirectiveProblem} {start stopped : Block} (hstart : start.directives = [])
    (hpasses : Passes start own stopped) (hdirective : line.directive? = some marked)
    (hfaulty : IsFaulty own marked problem) : Rejects stopped line problem := by
  have hcomment : LineForm.isComment line.content = true := by
    obtain ⟨comment, hcomment, -⟩ := Option.bind_eq_some_iff.mp hdirective
    rw [LineForm.isComment, hcomment]
    rfl
  have hline : line.isPreamble = true := by simp [Line.isPreamble, hcomment]
  have hfold : IsFold start.directives [] := hstart ▸ .nil
  obtain ⟨preamble, given, hlines, -, -, hgiven, hfold⟩ :=
    exists_isFold_of_readPreamble hfold hpasses.readPreamble_eq
  rw [List.append_nil] at hlines
  rw [List.nil_append] at hfold
  subst hlines
  have hadd : stopped.directives.add marked.name marked.value? marked.isGlobal =
      .error problem := by
    cases hfaulty with
    | notConverted hread => exact Directives.add_of_error hread
    | @second value other otherMarked hread hname hother hotherDirective hotherName =>
        have hmem : otherMarked ∈ given.map Given.marked :=
          hgiven ▸ List.mem_filterMap.mpr ⟨other, hother, hotherDirective⟩
        obtain ⟨directive, hdirective, rfl⟩ := List.mem_map.mp hmem
        rw [hname] at hread ⊢
        exact hfold.add_second hdirective hotherName hread
  intro more
  have henter : stopped.enter line = .error problem := by
    unfold Block.enter
    rw [hdirective]
    dsimp only
    rw [hadd]
    rfl
  rw [readPreamble_cons hline, henter]

/-- The lines above a line in its block are passed if they give no fault. -/
theorem exists_passes_of_readRecords {own after rest : List Line} {first line : Line}
    {records : List Record} (hlines : first :: rest = own ++ line :: after)
    (hread : readRecords own = (records, none)) (hown : ∀ other ∈ own, other.isPreamble = true) :
    ∃ stopped, Passes (Block.start first.number) own stopped := by
  cases own with
  | nil => exact ⟨_, .nil⟩
  | cons other more =>
      obtain ⟨rfl, -⟩ := List.cons_eq_cons.mp hlines
      obtain ⟨record, left, others, hrecord, -⟩ := readRecords_cons_iff.mp hread
      obtain ⟨block, behind, hpreamble, -⟩ := readRecord_eq_ok hrecord
      rw [← List.append_nil (first :: more)] at hpreamble
      exact exists_passes hown hpreamble

theorem failsAtLine_of_isFaulty {own : List Line} {records : List Record} {line : Line}
    {marked : LineForm.Marked} {problem : DirectiveProblem}
    (hread : readRecords own = (records, none)) (hown : ∀ other ∈ own, other.isPreamble = true)
    (hdirective : line.directive? = some marked) (hfaulty : IsFaulty own marked problem) :
    FailsAtLine own line ⟨.directive problem, line.number, line.content⟩ := by
  obtain ⟨first, rest, hlines⟩ : ∃ first rest, own ++ [line] = first :: rest :=
    List.exists_cons_of_ne_nil (List.append_ne_nil_of_right_ne_nil own (List.cons_ne_nil _ _))
  obtain ⟨stopped, hpasses⟩ := exists_passes_of_readRecords hlines.symm hread hown
  refine .of_readRecord hlines.symm hpasses fun others more hothers => ?_
  exact readRecord_fault (hothers.trans (rejects_of_isFaulty rfl hpasses hdirective hfaulty more))

/-- A faulty directive is the first fault if the lines above it give none. -/
theorem failsAtLine_of_openLines {above : List Line} {records : List Record} {line : Line}
    {marked : LineForm.Marked} {problem : DirectiveProblem}
    (hread : readRecords above = (records, none))
    (hopen : ∀ other ∈ openLines above, other.isPreamble = true)
    (hdirective : line.directive? = some marked)
    (hfaulty : IsFaulty (openLines above) marked problem) :
    FailsAtLine above line ⟨.directive problem, line.number, line.content⟩ := by
  rcases exists_openLines above with habove | ⟨outer, separator, hseparator, habove⟩
  · rw [habove] at hopen hfaulty
    exact failsAtLine_of_isFaulty hread hopen hdirective hfaulty
  · rw [habove] at hread
    obtain ⟨first, second, houter, hown, -⟩ := (readRecords_append_iff hseparator _).mp hread
    rw [habove]
    exact (failsAtLine_of_isFaulty hown hopen hdirective hfaulty).append hseparator
      (congrArg Prod.snd houter)

/-! ## Whole documents -/

/-- A problem is reported with its line, unless it is a pattern with a number that is too large: the
bound of a repetition or the code point of a character. -/
theorem isReported_or (problem : DirectiveProblem) :
    problem.isReported = true ∨ ∃ pattern fault, problem = .badPattern pattern fault ∧
      (fault.problem = .repetitionTooLarge ∨ fault.problem = .codeTooLarge) := by
  cases problem with
  | badPattern pattern fault =>
      obtain ⟨cause, position⟩ := fault
      cases cause with
      | repetitionTooLarge => exact .inr ⟨pattern, _, rfl, .inl rfl⟩
      | codeTooLarge => exact .inr ⟨pattern, _, rfl, .inr rfl⟩
      | _ => exact .inl rfl
  | _ => exact .inl rfl

/-- Every block of a document that can be read is read as one record or none, whose directives are
those that stand before the request line, folded.  In turn the first directive that cannot be
converted, or that is a second name, is the fault of the document if nothing above it is at fault.
It is reported with its line and the trimmed text of that line, unless it is a pattern with a
number that is too large. -/
theorem read_directives (text : Text) :
    (∀ records, Document.read text = .ok records → ∃ found,
      List.Forall₂ IsReadFrom
        ((Line.numberFrom 1 (Text.lines text)).splitOnP Line.isSeparator) found ∧
      records = found.reduceOption) ∧
    ∀ above raw below records marked problem, Text.lines text = above ++ raw :: below →
      Document.read (Text.join ['\n'] above) = .ok records →
      (∀ other ∈ openLines (Line.numberFrom 1 above), other.isPreamble = true) →
      Line.directive? ⟨above.length + 1, raw⟩ = some marked →
      IsFaulty (openLines (Line.numberFrom 1 above)) marked problem →
      Document.read text = .error ⟨.directive problem, above.length + 1, Text.trim raw⟩ ∧
        (problem.isReported = true ∨ ∃ pattern fault, problem = .badPattern pattern fault ∧
          (fault.problem = .repetitionTooLarge ∨ fault.problem = .codeTooLarge)) := by
  constructor
  · intro records hread
    have hlines : readRecords (Line.numberFrom 1 (Text.lines text)) = (records, none) := by
      rw [← readUpToFault_eq, readUpToFault]
      exact readRecords_of_read hread
    exact exists_forall₂_isReadFrom (List.forall_mem_nil _) hlines
  · intro above raw below records marked problem hlines hread hopen hdirective hfaulty
    have honeLine : ∀ part ∈ above, Text.IsOneLine part := fun part hpart =>
      Text.isOneLine_of_mem_lines text part (hlines ▸ List.mem_append_left _ hpart)
    have habove : readRecords (Line.numberFrom 1 above) = (records, none) := by
      rw [← readUpToFault_join honeLine, readUpToFault, readRecords_of_read hread]
    have hnumbered : Line.numberFrom 1 (Text.lines text) = Line.numberFrom 1 above ++
        ⟨above.length + 1, raw⟩ :: Line.numberFrom (above.length + 1 + 1) below := by
      rw [hlines, Line.numberFrom_append, Line.numberFrom, Nat.add_comm 1]
    have hfails := failsAtLine_of_openLines habove hopen hdirective hfaulty
    exact ⟨(read_of_failsAtLine hnumbered hfails).2.2 text rfl, isReported_or problem⟩

/-- Gathered directives on both sides of a declaration, and a second name below a first one. -/
theorem read_directives_gathered :
    (∃ records found,
      Document.read "# @ignore $.a\n@x=1\n# @ignore $.b\nGET /a" = .ok records ∧
      List.Forall₂ IsReadFrom ((Line.numberFrom 1
        (Text.lines "# @ignore $.a\n@x=1\n# @ignore $.b\nGET /a")).splitOnP Line.isSeparator)
          found ∧
      records = found.reduceOption) ∧
    Document.read "# @name a\n# @name b\nGET /a" =
      .error ⟨.directive .secondName, 2, "# @name b"⟩ := by
  have hread := read_of_readRecord
    (by decide : Line.ofText "# @ignore $.a\n@x=1\n# @ignore $.b\nGET /a" =
      [⟨1, "# @ignore $.a"⟩, ⟨2, "@x=1"⟩, ⟨3, "# @ignore $.b"⟩, ⟨4, "GET /a"⟩]) rfl
  have habove := read_of_readRecord
    (by decide : Line.ofText "# @name a" = [⟨1, "# @name a"⟩]) rfl
  have hlines : Text.lines "# @name a\n# @name b\nGET /a" =
      ["# @name a".toList] ++ "# @name b".toList :: ["GET /a".toList] := by decide
  have hopen : openLines (Line.numberFrom 1 ["# @name a".toList]) = [⟨1, "# @name a"⟩] := by decide
  have hconverted : DirectiveValue.read "name" (LineForm.Marked.value? ⟨false, "name", " b"⟩) =
      .ok (.text "b") := rfl
  have hfirst : Line.directive? ⟨1, "# @name a"⟩ = some ⟨false, "name", " a"⟩ := by decide
  have hfaulty : IsFaulty (openLines (Line.numberFrom 1 ["# @name a".toList]))
      ⟨false, "name", " b"⟩ .secondName :=
    .second hconverted rfl (hopen ▸ List.mem_singleton_self _) hfirst rfl
  obtain ⟨found, hfound, hrecords⟩ := (read_directives _).1 _ hread
  refine ⟨⟨_, found, hread, hfound, hrecords⟩, ?_⟩
  have hpreamble : ∀ other ∈ openLines (Line.numberFrom 1 ["# @name a".toList]),
      other.isPreamble = true := by
    rw [hopen]
    exact List.forall_mem_singleton.mpr rfl
  exact ((read_directives _).2 _ _ _ _ _ _ hlines habove hpreamble (by decide) hfaulty).1

/-- A pattern with a repetition that is too large cannot be converted, and nothing stands above it;
still it is not reported with its line. -/
theorem read_directives_unreported :
    ∃ marked problem, Line.directive? ⟨1, "# @throws a\x7b4294967295\x7d"⟩ = some marked ∧
      DirectiveValue.read marked.name marked.value? = .error problem ∧
      Document.read "# @throws a\x7b4294967295\x7d\nGET http://a\n" =
        .error ⟨.directive problem, 1, "# @throws a\x7b4294967295\x7d"⟩ ∧
      problem.isReported = false := by
  obtain ⟨marked, hmarked, hname, hvalue⟩ : ∃ marked,
      Line.directive? ⟨1, "# @throws a\x7b4294967295\x7d"⟩ = some marked ∧
        marked.name = "throws".toList ∧ marked.value? = some "a\x7b4294967295\x7d".toList :=
    ⟨⟨false, "throws", " a\x7b4294967295\x7d"⟩, by decide, rfl, by decide⟩
  have hunreported : ((DirectiveValue.read "throws" (some "a\x7b4294967295\x7d".toList)).mapError
      DirectiveProblem.isReported).map (fun _ => ()) = .error false := by decide +kernel
  obtain ⟨problem, hread, hreported⟩ : ∃ problem,
      DirectiveValue.read marked.name marked.value? = .error problem ∧
        problem.isReported = false := by
    rw [hname, hvalue]
    cases hread : DirectiveValue.read "throws" (some "a\x7b4294967295\x7d".toList) with
    | ok value =>
        rw [hread] at hunreported
        cases hunreported
    | error problem =>
        rw [hread] at hunreported
        exact ⟨problem, rfl, Except.error.inj hunreported⟩
  have hlines : Line.ofText "# @throws a\x7b4294967295\x7d\nGET http://a\n" =
      [⟨1, "# @throws a\x7b4294967295\x7d"⟩, ⟨2, "GET http://a"⟩, ⟨3, []⟩] := by decide
  obtain ⟨comment, hcomment, hdirective⟩ := Option.bind_eq_some_iff.mp hmarked
  refine ⟨marked, problem, hmarked, hread,
    read_of_readRecord_eq_error hlines (readRecord_fault ?_), hreported⟩
  exact readPreamble_badDirective _ _ hcomment hdirective (Directives.add_of_error hread)

end Document

end HttpScript
