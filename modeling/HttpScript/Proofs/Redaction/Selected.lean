import HttpScript.Proofs.Query.Matching
import HttpScript.Proofs.Redaction.Cover

/-!
# What a redaction replaces

The queries of a redaction are applied one after the other, each to what the queries before it left.
Still each of them can be read as if it came first.  Where every segment leads one step down, what
a query selects in a value with covered places is what it selects in the value itself, less what is
below a covered place (`mem_locations_cover_iff`): covering keeps the shape of every value that it
does not replace, and a mark has no children.  So a redaction covers what its queries select in the
value they are given (`redact_eq_cover`), and everything else about it follows from that.
-/

namespace HttpScript

/-! ## Segments that lead one step down -/

variable {segment : Segment} {segments rest : List Segment} {value other : Json} {way : Location}

namespace Json

theorem SameShape.symm (hshape : SameShape value other) : SameShape other value := by
  cases value <;> cases other <;> exact Eq.symm hshape

theorem SameShape.isSome_child? (hshape : SameShape value other) (step : Step)
    (hchild : (value.child? step).isSome = true) : (other.child? step).isSome = true := by
  cases value with
  | list items =>
      cases other with
      | list others =>
          cases step with
          | key name => cases hchild
          | index position =>
              have hlength : items.length = others.length := hshape
              simpa [child?, hlength] using hchild
      | _ => cases hshape
  | object fields =>
      cases other with
      | object others =>
          cases step with
          | key name =>
              have hnames : Table.names fields = Table.names others := hshape
              rw [child?, Table.isSome_get?_iff] at hchild ⊢
              exact hnames ▸ hchild
          | index position => cases hchild
      | _ => cases hshape
  | null | bool _ | int _ | float _ | str _ => cases step <;> cases hchild

end Json

/-- Where one segment leads one step down depends on the shape of a value only. -/
theorem Segment.Leads.of_sameShape (hleads : segment.Leads value way)
    (hsegment : segment ≠ .descend) (hshape : Json.SameShape value other) :
    segment.Leads other way := by
  cases hleads with
  | inside => exact absurd rfl hsegment
  | child hchild => exact .child (hshape.isSome_child? _ hchild)
  | key hfield =>
      cases other with
      | object others => exact .key (hshape.isSome_child? (.key _) hfield)
      | _ => exact nomatch hshape
  | digits hfield =>
      cases other with
      | object others => exact .digits (hshape.isSome_child? (.key _) hfield)
      | _ => exact nomatch hshape
  | item hindex hposition =>
      cases other with
      | list others =>
          have hlength : _ = others.length := hshape
          exact .item (hlength ▸ hindex) (hlength ▸ hposition)
      | _ => exact nomatch hshape
  | slice hindex hstart hstop =>
      cases other with
      | list others =>
          have hlength : _ = others.length := hshape
          exact .slice (hlength ▸ hindex) (hlength ▸ hstart) (hlength ▸ hstop)
      | _ => exact nomatch hshape

theorem matches_cons_iff (hsegment : segment ≠ .descend) :
    Matches (segment :: rest) value way ↔ ∃ step further child, way = step :: further ∧
      segment.Leads value [step] ∧ value.child? step = some child ∧ Matches rest child further := by
  constructor
  · intro hmatches
    cases hmatches with
    | @step _ _ _ inner first further hleads hinner hrest =>
        obtain ⟨step, rfl⟩ := List.length_eq_one_iff.mp (Query.length_of_leads hleads hsegment)
        rw [Json.at?_singleton] at hinner
        exact ⟨step, further, inner, rfl, hleads, hinner, hrest⟩
  · rintro ⟨step, further, child, rfl, hleads, hchild, hrest⟩
    exact .step hleads ((Json.at?_singleton value step).trans hchild) hrest

namespace Redaction

variable {covered : Location → Bool}

theorem not_leads_mark (hsegment : segment ≠ .descend) : ¬ segment.Leads (.str mark) way := by
  intro hleads
  obtain ⟨step, rfl⟩ := List.length_eq_one_iff.mp (Query.length_of_leads hleads hsegment)
  have hchild := Query.isSome_at?_of_leads hleads
  cases step <;> exact nomatch hchild

theorem leads_cover_iff (hroot : covered [] = false) (hsegment : segment ≠ .descend) :
    segment.Leads (cover covered value) way ↔ segment.Leads value way := by
  rw [cover_of_clear hroot]
  have hshape := Json.sameShape_mapChildren
    (fun step child => cover (behind [step] covered) child) value
  exact ⟨fun hleads => hleads.of_sameShape hsegment hshape.symm,
    fun hleads => hleads.of_sameShape hsegment hshape⟩

/-- Segments that lead one step down find in a value with covered places what they find in the
value itself, unless it is below a covered place. -/
theorem matches_cover_iff (hdescend : .descend ∉ segments) :
    Matches segments (cover covered value) way ↔
      Matches segments value way ∧ ClearAbove covered way := by
  induction segments generalizing value covered way with
  | nil =>
      constructor
      · rintro ⟨⟩
        exact ⟨.root, clearAbove_nil⟩
      · rintro ⟨⟨⟩, -⟩
        exact .root
  | cons segment rest ih =>
      rw [List.mem_cons, not_or] at hdescend
      have hsegment : segment ≠ .descend := Ne.symm hdescend.1
      rw [matches_cons_iff hsegment, matches_cons_iff hsegment]
      constructor
      · rintro ⟨step, further, child, rfl, hleads, hchild, hrest⟩
        cases hroot : covered [] with
        | true => exact absurd (cover_of_covered hroot value ▸ hleads) (not_leads_mark hsegment)
        | false =>
            rw [cover_of_clear hroot, Json.child?_mapChildren] at hchild
            obtain ⟨inner, hinner, rfl⟩ := Option.map_eq_some_iff.mp hchild
            obtain ⟨hrest, hclear⟩ := (ih hdescend.2).mp hrest
            exact ⟨⟨step, further, inner, rfl, (leads_cover_iff hroot hsegment).mp hleads, hinner,
              hrest⟩, clearAbove_cons_iff.mpr ⟨hroot, hclear⟩⟩
      · rintro ⟨⟨step, further, inner, rfl, hleads, hinner, hrest⟩, hclear⟩
        obtain ⟨hroot, hclear⟩ := clearAbove_cons_iff.mp hclear
        refine ⟨step, further, cover (behind [step] covered) inner, rfl,
          (leads_cover_iff hroot hsegment).mpr hleads, ?_, (ih hdescend.2).mpr ⟨hrest, hclear⟩⟩
        rw [cover_of_clear hroot, Json.child?_mapChildren, hinner, Option.map_some]

theorem mem_locations_cover_iff (hkeys : value.KeysDistinct) (hdescend : .descend ∉ segments) :
    way ∈ Query.locations segments (cover covered value) ↔
      way ∈ Query.locations segments value ∧ ClearAbove covered way := by
  rw [Query.mem_locations_iff (keysDistinct_cover hkeys covered), Query.mem_locations_iff hkeys,
    matches_cover_iff hdescend]

/-! ## One query -/

/-- Putting marks over places none of which is inside another is covering them. -/
theorem replaceAll_eq_cover {ways : List Location} {length : Nat} (hkeys : value.KeysDistinct)
    (hpositive : 0 < length) (hlength : ∀ way ∈ ways, way.length = length)
    (hpresent : ∀ way ∈ ways, (value.at? way).isSome = true) :
    replaceAll (.str mark) ways value = .ok (cover (· ∈ ways) value) := by
  induction ways generalizing value with
  | nil =>
      rw [replaceAll, cover_eq_self (by simp)]
  | cons way rest ih =>
      have hway : way ≠ [] := by
        rintro rfl
        exact hpositive.ne (hlength [] List.mem_cons_self)
      rw [replaceAll, replaceAt_eq_cover hkeys hway (hpresent way List.mem_cons_self)]
      have hrest : ∀ other ∈ rest, ((cover (· = way) value).at? other).isSome = true := by
        intro other hother
        -- of two places at one depth neither is above the other
        have hclear : ClearAbove (· = way) other := by
          intro before hbefore hne
          refine decide_eq_false fun heq => hne (hbefore.eq_of_length ?_)
          rw [heq, hlength way List.mem_cons_self,
            hlength other (List.mem_cons_of_mem way hother)]
        rw [at?_cover hclear, Option.isSome_map]
        exact hpresent other (List.mem_cons_of_mem way hother)
      have hunion := ih (keysDistinct_cover hkeys _)
        (fun other hother => hlength other (List.mem_cons_of_mem way hother)) hrest
      rw [cover_cover] at hunion
      refine hunion.trans (congrArg Except.ok (cover_congr (fun other _ => ?_) value))
      simp [Bool.or_comm]

theorem replaceSelected_cover (hkeys : value.KeysDistinct) (hsegments : segments ≠ [])
    (hdescend : .descend ∉ segments) (covered : Location → Bool) :
    replaceSelected (.str mark) segments (cover covered value) =
      .ok (cover (fun way => covered way || way ∈ Query.locations segments value) value) := by
  have hcovered := keysDistinct_cover hkeys covered
  have hmatches (way : Location) (hway : way ∈ Query.locations segments (cover covered value)) :=
    (Query.mem_locations_iff hcovered).mp hway
  rw [replaceSelected, replaceAll_eq_cover hcovered (List.length_pos_of_ne_nil hsegments)
    (fun way hway => Query.length_of_matches (hmatches way hway) hdescend)
    fun way hway => Query.isSome_at?_of_matches (hmatches way hway), cover_cover]
  -- what the query misses now is below a covered place, where it does not count
  refine congrArg Except.ok (cover_congr (fun way hclear => ?_) value)
  have hcleared : ClearAbove covered way := fun before hbefore hne =>
    (Bool.or_eq_false_iff.mp (hclear before hbefore hne)).2
  simp [mem_locations_cover_iff hkeys hdescend, hcleared, Bool.or_comm]

/-! ## All queries of a list -/

/-- Whether some path of a list selects a location. -/
def selected (paths : List Text) (value : Json) (way : Location) : Bool :=
  paths.any fun path =>
    match Query.read path with
    | .ok segments => decide (way ∈ Query.locations segments value)
    | .error _ => false

/-- A path that can be read and leads some steps down, one with each of its segments. -/
def LeadsDown (path : Text) : Prop :=
  ∃ segments, Query.read path = .ok segments ∧ segments ≠ [] ∧ .descend ∉ segments

theorem redact_cover {paths : List Text} (hkeys : value.KeysDistinct)
    (hpaths : ∀ path ∈ paths, LeadsDown path) (covered : Location → Bool) :
    redact (.str mark) paths (cover covered value) =
      .ok (cover (fun way => covered way || selected paths value way) value) := by
  induction paths generalizing covered with
  | nil => simp [redact, selected]
  | cons path rest ih =>
      obtain ⟨segments, hread, hsegments, hdescend⟩ := hpaths path List.mem_cons_self
      have hrest := ih fun other hother => hpaths other (List.mem_cons_of_mem path hother)
      rw [redact, hread]
      change (replaceSelected _ segments (cover covered value) >>= redact _ rest) = _
      rw [replaceSelected_cover hkeys hsegments hdescend]
      refine (hrest _).trans ?_
      simp [selected, hread, Bool.or_assoc]

/-- A redaction covers what its queries select in the value that they are given. -/
theorem redact_eq_cover {paths : List Text} (hkeys : value.KeysDistinct)
    (hpaths : ∀ path ∈ paths, LeadsDown path) :
    redact (.str mark) paths value = .ok (cover (selected paths value) value) := by
  have hredact := redact_cover hkeys hpaths fun _ => false
  rwa [cover_eq_self (fun _ => rfl)] at hredact

theorem exists_of_selected {paths : List Text} (hselected : selected paths value way = true) :
    ∃ path ∈ paths, ∃ segments, Query.read path = .ok segments ∧
      way ∈ Query.locations segments value := by
  obtain ⟨path, hpath, hway⟩ := List.any_eq_true.mp hselected
  split at hway
  · next segments hread => exact ⟨path, hpath, segments, hread, of_decide_eq_true hway⟩
  · exact nomatch hway

theorem isSome_at?_of_selected {paths : List Text} (hkeys : value.KeysDistinct)
    (hselected : selected paths value way = true) : (value.at? way).isSome = true := by
  obtain ⟨path, -, segments, -, hway⟩ := exists_of_selected hselected
  exact Query.isSome_at?_of_matches ((Query.mem_locations_iff hkeys).mp hway)

theorem selected_congr {paths others : List Text} (hsame : ∀ path, path ∈ others ↔ path ∈ paths) :
    selected others value = selected paths value := by
  funext way
  rw [selected, selected, Bool.eq_iff_iff, List.any_eq_true, List.any_eq_true]
  simp only [hsame]

/-! ## The outermost places -/

/-- A redaction puts the mark in the outermost places that its paths select in the value it is
given, and nowhere else: what is neither in nor below such a place keeps its keys, its length or
what it is, and what has no such place inside is as it was.  It goes by the set of its paths only,
and redacting once more changes nothing. -/
theorem redact_outermost {paths : List Text} {value : Json} (hkeys : value.KeysDistinct)
    (hpaths : ∀ path ∈ paths, LeadsDown path) :
    ∃ result, redact (.str mark) paths value = .ok result ∧ result.KeysDistinct ∧
      (∀ way, selected paths value way = true → ClearAbove (selected paths value) way →
        result.at? way = some (.str mark)) ∧
      (∀ way, (∀ before, before <+: way → selected paths value before = false) →
        Option.Rel Json.SameShape (value.at? way) (result.at? way)) ∧
      (∀ way, (∀ place, selected paths value place = true → ¬ place <+: way ∧ ¬ way <+: place) →
        result.at? way = value.at? way) ∧
      (∀ others, (∀ path, path ∈ others ↔ path ∈ paths) →
        redact (.str mark) others value = .ok result) ∧
      redact (.str mark) paths result = .ok result := by
  refine ⟨cover (selected paths value) value, redact_eq_cover hkeys hpaths,
    keysDistinct_cover hkeys _, fun way hway hclear => ?_, fun way => sameShape_at?_cover,
    fun way => at?_cover_of_apart, fun others hsame => ?_, ?_⟩
  · exact at?_cover_of_covered hclear hway (isSome_at?_of_selected hkeys hway)
  · have hothers : ∀ path ∈ others, LeadsDown path :=
      fun path hpath => hpaths path ((hsame path).mp hpath)
    rw [redact_eq_cover hkeys hothers, selected_congr hsame]
  · rw [redact_cover hkeys hpaths]
    simp only [Bool.or_self]

/-- One path selects an item of a list, the next one the list. -/
theorem redact_outermost_nested :
    let value : Json := .object [("a", .object [("b", .list [.null, .bool true]), ("c", .null)])]
    let paths : List Text := ["$.a.b[-1]", "$.a['b']"]
    value.KeysDistinct ∧ (∀ path ∈ paths, LeadsDown path) ∧
      ∃ result, redact (.str mark) paths value = .ok result ∧
        result.at? [.key "a", .key "b"] = some (.str mark) ∧
        result.at? [.key "a", .key "c"] = some .null := by
  intro value paths
  have hkeys : value.KeysDistinct := by
    simp [value, Json.KeysDistinct, Json.itemsKeysDistinct, Json.fieldsKeysDistinct]
  have hpaths : ∀ path ∈ paths, LeadsDown path := by
    simp only [paths, List.forall_mem_cons]
    exact ⟨⟨[.key "a", .key "b", .index (-1)], by decide, by decide, by decide⟩,
      ⟨[.key "a", .key "b"], by decide, by decide, by decide⟩, by simp⟩
  have hclear : ClearAbove (selected paths value) [.key "a", .key "b"] := by
    refine clearAbove_cons_iff.mpr ⟨by decide, clearAbove_cons_iff.mpr ⟨by decide, clearAbove_nil⟩⟩
  have hnone : ∀ before ∈ List.inits [.key "a", .key "c"], selected paths value before = false := by
    decide
  obtain ⟨result, hresult, -, hmarked, hshape, -⟩ := redact_outermost hkeys hpaths
  refine ⟨hkeys, hpaths, result, hresult, hmarked _ (by decide) hclear, ?_⟩
  have hkept := hshape [.key "a", .key "c"] fun before hbefore =>
    hnone before ((List.mem_inits _ _).mpr hbefore)
  generalize result.at? [.key "a", .key "c"] = found at hkept
  cases hkept with
  | @some _ kept hsame =>
      cases kept with
      | null => rfl
      | _ => cases hsame

end Redaction

end HttpScript
