import HttpScript.Proofs.Query.Locations

/-!
# What a query selects

Which locations a list of segments matches is said without a list of nodes: a segment leads from a
value to locations inside it, and the segments behind it go on from there.  Selection finds just
these locations, each with the value that is there.

No location is found twice if at most one of the segments leads inside at any depth.  Every other
segment leads one step down, so it can be read off a location which part of it such a segment has
found, as long as it is the only one.
-/

namespace HttpScript

/-! ## Matching -/

/-- A position in a list of some length, from the end when negative. -/
def Query.fromEnd (length : Nat) (position : Int) : Int :=
  if position < 0 then length + position else position

/-- A segment leads from a value to a location inside it. -/
inductive Segment.Leads : Segment → Json → Location → Prop
  | key {name : Text} {fields : List (Text × Json)}
      (hfield : (Table.get? fields name).isSome = true) :
      Leads (.key name) (.object fields) [.key name]
  | item {position : Int} {items : List Json} {index : Nat} (hindex : index < items.length)
      (hposition : index = Query.fromEnd items.length position) :
      Leads (.index position) (.list items) [.index index]
  | digits {position : Int} {fields : List (Text × Json)}
      (hfield : (Table.get? fields (Text.ofInt position)).isSome = true) :
      Leads (.index position) (.object fields) [.key (Text.ofInt position)]
  | child {value : Json} {step : Step} (hchild : (value.child? step).isSome = true) :
      Leads .all value [step]
  | slice {start stop : Option Int} {items : List Json} {index : Nat}
      (hindex : index < items.length)
      (hstart : ∀ bound ∈ start, Query.fromEnd items.length bound ≤ index)
      (hstop : ∀ bound ∈ stop, index < Query.fromEnd items.length bound) :
      Leads (.slice start stop) (.list items) [.index index]
  | inside {value : Json} {way : Location} (hinner : (value.at? way).isSome = true) :
      Leads .descend value way

/-- A list of segments leads from a value to a location inside it, segment by segment. -/
inductive Matches : List Segment → Json → Location → Prop
  | root {value : Json} : Matches [] value []
  | step {segment : Segment} {rest : List Segment} {value inner : Json} {way further : Location}
      (hleads : segment.Leads value way) (hinner : value.at? way = some inner)
      (hrest : Matches rest inner further) : Matches (segment :: rest) value (way ++ further)

namespace Query

/-! ## One segment -/

variable {segment : Segment} {segments rest : List Segment} {value : Json} {node : Node}

theorem mem_childNodes_iff {step : Step} :
    node ∈ value.childNodes step ↔ node.1 = [step] ∧ value.child? step = some node.2 := by
  obtain ⟨way, inner⟩ := node
  unfold Json.childNodes
  cases value.child? step with
  | none => simp
  | some child => simp [eq_comm]

theorem clampBound_le_iff {length index : Nat} (hindex : index < length) (bound : Int) :
    clampBound length bound ≤ index ↔ fromEnd length bound ≤ index := by
  unfold clampBound fromEnd
  split <;> omega

theorem lt_clampBound_iff {length index : Nat} (hindex : index < length) (bound : Int) :
    index < clampBound length bound ↔ (index : Int) < fromEnd length bound := by
  unfold clampBound fromEnd
  split <;> omega

/-- The items of a list from a position on and before another, each with its own position. -/
theorem mem_numbered_drop_take {items : List Json} {first last : Nat} {found : Step × Json} :
    found ∈ Json.numbered first ((items.take last).drop first) ↔
      ∃ index, found.1 = .index index ∧ first ≤ index ∧ index < last ∧
        items[index]? = some found.2 := by
  rw [Json.mem_numbered_iff]
  simp only [List.getElem?_drop, List.getElem?_take]
  constructor
  · rintro ⟨position, hstep, hitem⟩
    obtain ⟨hlast, hitem⟩ := Option.ite_none_right_eq_some.mp hitem
    exact ⟨first + position, hstep, Nat.le_add_right _ _, hlast, hitem⟩
  · rintro ⟨index, hstep, hfirst, hlast, hitem⟩
    refine ⟨index - first, ?_, ?_⟩
    · rw [hstep, Nat.add_sub_cancel' hfirst]
    · rw [Nat.add_sub_cancel' hfirst, if_pos hlast]
      exact hitem

theorem mem_step_slice_iff {start stop : Option Int} {items : List Json} :
    node ∈ step (.slice start stop) (.list items) ↔
      (Segment.slice start stop).Leads (.list items) node.1 ∧
        (Json.list items).at? node.1 = some node.2 := by
  obtain ⟨way, inner⟩ := node
  rw [step, List.mem_map]
  simp only [mem_numbered_drop_take, Prod.mk.injEq]
  constructor
  · rintro ⟨found, ⟨index, hstep, hfirst, hlast, hitem⟩, rfl, rfl⟩
    have hindex : index < items.length := (List.getElem?_eq_some_iff.mp hitem).1
    rw [hstep]
    refine ⟨.slice hindex (fun bound hbound => ?_) fun bound hbound => ?_, ?_⟩
    · rw [Option.mem_def.mp hbound] at hfirst
      exact (clampBound_le_iff hindex bound).mp hfirst
    · rw [Option.mem_def.mp hbound] at hlast
      exact (lt_clampBound_iff hindex bound).mp hlast
    · rw [Json.at?_singleton]
      exact hitem
  · rintro ⟨hleads, hinner⟩
    cases hleads with
    | @slice _ _ _ index hindex hstart hstop =>
        rw [Json.at?_singleton] at hinner
        refine ⟨(.index index, inner), ⟨index, rfl, ?_, ?_, hinner⟩, rfl, rfl⟩
        · cases start with
          | none => exact Nat.zero_le index
          | some bound => exact (clampBound_le_iff hindex bound).mpr (hstart bound rfl)
        · cases stop with
          | none => exact hindex
          | some bound => exact (lt_clampBound_iff hindex bound).mpr (hstop bound rfl)

theorem step_item (position : Int) (items : List Json) :
    step (.index position) (.list items) =
      if fromEnd items.length position < 0 then []
      else Json.childNodes (.list items) (.index (fromEnd items.length position).toNat) := rfl

theorem mem_step_item_iff {position : Int} {items : List Json} :
    node ∈ step (.index position) (.list items) ↔
      (Segment.index position).Leads (.list items) node.1 ∧
        (Json.list items).at? node.1 = some node.2 := by
  obtain ⟨way, inner⟩ := node
  rw [step_item, List.mem_ite_nil_left, mem_childNodes_iff]
  constructor
  · rintro ⟨hnegative, rfl, hitem⟩
    have hindex := (List.getElem?_eq_some_iff.mp hitem).1
    refine ⟨.item hindex (by omega), ?_⟩
    rw [Json.at?_singleton]
    exact hitem
  · rintro ⟨hleads, hinner⟩
    cases hleads with
    | @item _ _ index hindex hposition =>
        rw [Json.at?_singleton] at hinner
        rw [← hposition]
        exact ⟨by omega, rfl, hinner⟩

/-- One segment finds the locations that it leads to, each with what is there. -/
theorem mem_step_iff (hkeys : value.KeysDistinct) :
    node ∈ step segment value ↔
      segment.Leads value node.1 ∧ value.at? node.1 = some node.2 := by
  obtain ⟨way, inner⟩ := node
  cases segment with
  | descend =>
      rw [step, Json.mem_descendants_iff hkeys]
      refine ⟨fun hinner => ⟨.inside (by simp [hinner]), hinner⟩, And.right⟩
  | all =>
      rw [step, List.mem_map]
      simp only [Json.mem_children_iff hkeys, Prod.mk.injEq]
      constructor
      · rintro ⟨found, hchild, rfl, rfl⟩
        exact ⟨.child (by simp [hchild]), (Json.at?_singleton value found.1).trans hchild⟩
      · rintro ⟨hleads, hinner⟩
        cases hleads with
        | @child _ first => exact ⟨(first, inner), by simpa using hinner, rfl, rfl⟩
  | slice start stop =>
      cases value with
      | list items => exact mem_step_slice_iff
      | _ => exact ⟨nofun, fun hboth => nomatch hboth.1⟩
  | index position =>
      cases value with
      | list items => exact mem_step_item_iff
      | object fields =>
          change (way, inner) ∈ (Json.object fields).childNodes (.key (Text.ofInt position)) ↔ _
          rw [mem_childNodes_iff]
          constructor
          · rintro ⟨rfl, hfield⟩
            exact ⟨.digits (Option.isSome_of_eq_some hfield), (Json.at?_singleton _ _).trans hfield⟩
          · rintro ⟨hleads, hinner⟩
            cases hleads
            exact ⟨rfl, by simpa using hinner⟩
      | _ => exact ⟨nofun, fun hboth => nomatch hboth.1⟩
  | key name =>
      cases value with
      | object fields =>
          rw [step, mem_childNodes_iff]
          constructor
          · rintro ⟨rfl, hfield⟩
            exact ⟨.key (Option.isSome_of_eq_some hfield), (Json.at?_singleton _ _).trans hfield⟩
          · rintro ⟨hleads, hinner⟩
            cases hleads
            exact ⟨rfl, by simpa using hinner⟩
      | _ => exact ⟨nofun, fun hboth => nomatch hboth.1⟩

/-! ## One segment after the other -/

theorem select_singleton (segment : Segment) (value : Json) :
    select [segment] value = step segment value := by
  simp [select]

/-- A list of segments finds the locations that match it, each with what is there. -/
theorem mem_select_iff (hkeys : value.KeysDistinct) :
    node ∈ select segments value ↔
      Matches segments value node.1 ∧ value.at? node.1 = some node.2 := by
  induction segments generalizing value node with
  | nil =>
      rw [select, List.mem_singleton]
      constructor
      · rintro rfl
        exact ⟨.root, rfl⟩
      · rintro ⟨hmatches, hinner⟩
        obtain ⟨way, inner⟩ := node
        cases hmatches
        rw [Json.at?_nil] at hinner
        rw [Option.some.inj hinner]
  | cons segment rest ih =>
      rw [select, List.mem_flatMap]
      constructor
      · rintro ⟨⟨way, inner⟩, hfirst, hnode⟩
        obtain ⟨⟨further, found⟩, hfound, rfl⟩ := List.mem_map.mp hnode
        obtain ⟨hleads, hinner⟩ := (mem_step_iff hkeys).mp hfirst
        obtain ⟨hrest, hat⟩ := (ih (Json.keysDistinct_of_at? hkeys hinner)).mp hfound
        exact ⟨.step hleads hinner hrest, (Json.at?_append_of_at? hinner).trans hat⟩
      · rintro ⟨hmatches, hat⟩
        obtain ⟨way, found⟩ := node
        cases hmatches with
        | @step _ _ _ inner way further hleads hinner hrest =>
            change value.at? (way ++ further) = some found at hat
            rw [Json.at?_append_of_at? hinner] at hat
            have hfound : (further, found) ∈ select rest inner :=
              (ih (Json.keysDistinct_of_at? hkeys hinner)).mpr ⟨hrest, hat⟩
            exact ⟨(way, inner), (mem_step_iff hkeys).mpr ⟨hleads, hinner⟩,
              List.mem_map.mpr ⟨_, hfound, rfl⟩⟩

theorem isSome_at?_of_leads {way : Location} (hleads : segment.Leads value way) :
    (value.at? way).isSome = true := by
  cases hleads with
  | key hfield => rwa [Json.at?_singleton]
  | item hindex => simpa [Json.child?] using hindex
  | digits hfield => rwa [Json.at?_singleton]
  | child hchild => rwa [Json.at?_singleton]
  | slice hindex => simpa [Json.child?] using hindex
  | inside hinner => exact hinner

theorem isSome_at?_of_matches {way : Location} (hmatches : Matches segments value way) :
    (value.at? way).isSome = true := by
  induction hmatches with
  | root => rfl
  | step _ hinner _ ih => rwa [Json.at?_append_of_at? hinner]

theorem mem_locations_iff (hkeys : value.KeysDistinct) {way : Location} :
    way ∈ locations segments value ↔ Matches segments value way := by
  rw [locations, List.mem_map]
  constructor
  · rintro ⟨node, hnode, rfl⟩
    exact ((mem_select_iff hkeys).mp hnode).1
  · intro hmatches
    obtain ⟨inner, hinner⟩ := Option.isSome_iff_exists.mp (isSome_at?_of_matches hmatches)
    exact ⟨(way, inner), (mem_select_iff hkeys).mpr ⟨hmatches, hinner⟩, rfl⟩

theorem values_eq (hkeys : value.KeysDistinct) :
    (values segments value).map some = (locations segments value).map value.at? := by
  rw [values, locations, List.map_map, List.map_map]
  exact List.map_congr_left fun node hnode => ((mem_select_iff hkeys).mp hnode).2.symm

/-! ## No location twice -/

theorem length_of_leads {way : Location} (hleads : segment.Leads value way)
    (hsegment : segment ≠ .descend) : way.length = 1 := by
  cases hleads with
  | inside => exact absurd rfl hsegment
  | _ => rfl

/-- Without a segment that leads inside at any depth, there is one step for each segment. -/
theorem length_of_matches {way : Location} (hmatches : Matches segments value way)
    (hsegments : .descend ∉ segments) : way.length = segments.length := by
  induction hmatches with
  | root => rfl
  | @step segment rest value inner way further hleads _ _ ih =>
      rw [List.mem_cons, not_or] at hsegments
      rw [List.length_append, length_of_leads hleads (Ne.symm hsegments.1), ih hsegments.2,
        List.length_cons, Nat.add_comm]

/-- Lists that are made of distinct keys have nothing twice if what is in one of them tells its
key. -/
theorem nodup_flatMap_of_keys {α β γ : Type} {entries : List (α × β)} {make : α × β → List γ}
    (hentries : (entries.map Prod.fst).Nodup) (hmake : ∀ entry ∈ entries, (make entry).Nodup)
    (htells : ∀ entry ∈ entries, ∀ other ∈ entries, ∀ made ∈ make entry, made ∈ make other →
      entry.1 = other.1) : (entries.flatMap make).Nodup := by
  rw [List.nodup_flatMap]
  refine ⟨hmake, ?_⟩
  have hdistinct : entries.Pairwise fun entry other => entry.1 ≠ other.1 :=
    List.pairwise_map.mp hentries
  refine hdistinct.imp_of_mem fun hentry hother hne made hmade hmadeOther => ?_
  exact hne (htells _ hentry _ hother made hmade hmadeOther)

theorem nodup_descendants (hkeys : value.KeysDistinct) :
    (value.descendants.map Prod.fst).Nodup := by
  induction value using Json.children_induction with
  | node value ih =>
      have hlocations : value.descendants.map Prod.fst = [] :: value.children.flatMap fun node =>
          (node.2.descendants.map Prod.fst).map (node.1 :: ·) := by
        rw [Json.descendants_eq, List.map_cons, List.map_flatMap]
        simp only [List.map_map, Function.comp_def]
      rw [hlocations, List.nodup_cons]
      refine ⟨fun hmem => ?_, nodup_flatMap_of_keys (Json.nodup_children hkeys) ?_ ?_⟩
      · obtain ⟨node, -, hroot⟩ := List.mem_flatMap.mp hmem
        obtain ⟨way, -, hway⟩ := List.mem_map.mp hroot
        exact nomatch hway
      · intro node hnode
        have hchild := Json.keysDistinct_of_mem_children hkeys hnode
        exact (ih node hnode hchild).map fun _ _ heq => (List.cons.inj heq).2
      · intro node _ other _ way hway hother
        obtain ⟨rest, -, rfl⟩ := List.mem_map.mp hway
        obtain ⟨further, -, heq⟩ := List.mem_map.mp hother
        exact (List.cons.inj heq).1.symm

theorem nodup_childNodes (value : Json) (step : Step) :
    ((value.childNodes step).map Prod.fst).Nodup := by
  unfold Json.childNodes
  cases value.child? step <;> simp

theorem nodup_step (hkeys : value.KeysDistinct) :
    ((step segment value).map Prod.fst).Nodup := by
  have hsingle {found : List (Step × Json)} (hfound : (found.map Prod.fst).Nodup) :
      ((found.map fun node => (([node.1], node.2) : Node)).map Prod.fst).Nodup := by
    have hways : (found.map fun node => (([node.1], node.2) : Node)).map Prod.fst =
        (found.map Prod.fst).map fun step => [step] := by simp [Function.comp_def]
    rw [hways]
    exact hfound.map fun _ _ => List.singleton_injective.eq_iff.mp
  cases segment with
  | descend => exact nodup_descendants hkeys
  | all => exact hsingle (Json.nodup_children hkeys)
  | slice start stop =>
      cases value with
      | list items => exact hsingle (Json.nodup_numbered _ _)
      | _ => exact List.nodup_nil
  | index position =>
      cases value with
      | list items =>
          rw [step_item]
          split
          · exact List.nodup_nil
          · exact nodup_childNodes _ _
      | object fields => exact nodup_childNodes (.object fields) (.key (Text.ofInt position))
      | _ => exact List.nodup_nil
  | key name => exact nodup_childNodes _ _

theorem locations_cons (segment : Segment) (rest : List Segment) (value : Json) :
    locations (segment :: rest) value = (step segment value).flatMap fun node =>
      (locations rest node.2).map (node.1 ++ ·) := by
  rw [locations, select, List.map_flatMap]
  simp only [locations, List.map_map, Function.comp_def]

theorem nodup_locations (hkeys : value.KeysDistinct) (hdescend : segments.count .descend ≤ 1) :
    (locations segments value).Nodup := by
  induction segments generalizing value with
  | nil => exact List.nodup_singleton _
  | cons segment rest ih =>
      rw [List.count_cons] at hdescend
      have hinside (node : Node) (hnode : node ∈ step segment value) : node.2.KeysDistinct :=
        Json.keysDistinct_of_at? hkeys ((mem_step_iff hkeys).mp hnode).2
      rw [locations_cons]
      refine nodup_flatMap_of_keys (nodup_step hkeys) (fun node hnode => ?_) ?_
      · have hrest : (locations rest node.2).Nodup := ih (hinside node hnode) (by omega)
        exact hrest.map (List.append_right_injective node.1)
      · intro node hnode other hother way hway hwayOther
        obtain ⟨further, hfurther, rfl⟩ := List.mem_map.mp hway
        obtain ⟨furtherOther, hfurtherOther, heq⟩ := List.mem_map.mp hwayOther
        by_cases hsegment : segment = .descend
        · -- the part behind this segment has one step for each of the others
          have hnone : .descend ∉ rest := by
            rw [← List.count_eq_zero]
            simp [hsegment] at hdescend
            exact hdescend
          have hlength (node : Node) (hnode : node ∈ step segment value) (further : Location)
              (hfurther : further ∈ locations rest node.2) : further.length = rest.length :=
            length_of_matches ((mem_locations_iff (hinside node hnode)).mp hfurther) hnone
          refine (List.append_inj_left' heq ?_).symm
          rw [hlength other hother _ hfurtherOther, hlength node hnode _ hfurther]
        · -- the part of this segment is one step
          have hlength (node : Node) (hnode : node ∈ step segment value) : node.1.length = 1 :=
            length_of_leads ((mem_step_iff hkeys).mp hnode).1 hsegment
          refine (List.append_inj_left heq ?_).symm
          rw [hlength other hother, hlength node hnode]

end Query

/-- Whatever the segments are, selection finds the locations that match them and no others, and with
each of them the value that is there.  It finds none of them twice if at most one segment leads
inside at any depth. -/
theorem select_exact {value : Json} (hkeys : value.KeysDistinct) (segments : List Segment) :
    (∀ way, way ∈ Query.locations segments value ↔ Matches segments value way) ∧
    (Query.values segments value).map some = (Query.locations segments value).map value.at? ∧
    (segments.count .descend ≤ 1 → (Query.locations segments value).Nodup) :=
  ⟨fun _ => Query.mem_locations_iff hkeys, Query.values_eq hkeys, Query.nodup_locations hkeys⟩

/-- A key at any depth, two lists below the root, by a position from the end. -/
theorem select_exact_nested :
    let value : Json := .object [("a", .list [.null, .list [.object [("0", .bool true)]]])]
    value.KeysDistinct ∧
      Matches [.descend, .index (-1), .index 0, .index 0] value
        [.key "a", .index 1, .index 0, .key "0"] ∧
      (Query.locations [.descend, .index (-1), .index 0, .index 0] value).Nodup := by
  intro value
  have hkeys : value.KeysDistinct := by
    simp [value, Json.KeysDistinct, Json.itemsKeysDistinct, Json.fieldsKeysDistinct]
  obtain ⟨hmatches, -, hnodup⟩ :=
    select_exact hkeys [.descend, .index (-1), .index 0, .index 0]
  exact ⟨hkeys, (hmatches _).mp (by decide), hnodup (by decide)⟩

/-- With two such segments there is more than one way to divide a location between them. -/
example : Query.locations [.descend, .descend] (.list [.null]) =
    [[], [.index 0], [.index 0]] := by decide

end HttpScript
