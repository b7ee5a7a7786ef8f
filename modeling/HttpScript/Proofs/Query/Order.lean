import HttpScript.Proofs.Query.Matching
import Mathlib.Data.List.Pairwise

/-!
# The order of what is selected

In a document a value stands before everything inside it, and everything inside one child stands
before everything inside a later child (`Json.Precedes`).  One segment finds its locations in this
order, and so does a list of segments, as long as none of the locations found by its first part lies
inside another (`pairwise_append`).  Only `..` finds locations that lie inside one another, so the
order is that of the document where `..` is missing or stands last.

Behind `..` the rest of a query goes on from an outer location before it comes to the inner ones.
So what is found is ordered by the location from which the rest of the query went on, its base, and
only then by the location itself (`FoundBefore`).  That is not the order of the document: `$..id`
finds the `id` of an object before the `id` of whatever stands in front of it there.
-/

namespace HttpScript

namespace Json

/-! ## The order of a document -/

/-- One location stands before another in a document: a value before everything inside it, and what
is inside one child before what is inside a later one. -/
inductive Precedes : Json → Location → Location → Prop
  | inside {value : Json} {step : Step} {rest : Location} : Precedes value [] (step :: rest)
  | beside {value : Json} {first second : Step} {way other : Location}
      (hsteps : [first, second].Sublist (value.children.map Prod.fst)) :
      Precedes value (first :: way) (second :: other)
  | within {value child : Json} {step : Step} {way other : Location}
      (hchild : value.child? step = some child) (hrest : Precedes child way other) :
      Precedes value (step :: way) (step :: other)

variable {value inner : Json} {way other : Location}

/-- Inside a value the order is that of the whole document. -/
theorem Precedes.append (hinner : value.at? way = some inner) {first second : Location}
    (hprecedes : inner.Precedes first second) :
    value.Precedes (way ++ first) (way ++ second) := by
  induction way generalizing value with
  | nil =>
      rw [at?_nil] at hinner
      rwa [Option.some.inj hinner]
  | cons step rest ih =>
      obtain ⟨child, hchild, hrest⟩ := Option.bind_eq_some_iff.mp hinner
      exact .within hchild (ih hrest)

theorem keysDistinct_ne_of_sublist (hkeys : value.KeysDistinct) {first second : Step}
    (hsteps : [first, second].Sublist (value.children.map Prod.fst)) : first ≠ second := by
  have hnodup : [first, second].Nodup := (nodup_children hkeys).sublist hsteps
  simpa using hnodup

/-- Nothing stands before what it lies inside. -/
theorem Precedes.not_isPrefix (hkeys : value.KeysDistinct)
    (hprecedes : value.Precedes way other) : ¬ other <+: way := by
  induction hprecedes with
  | inside => simp
  | beside hsteps =>
      rw [List.cons_prefix_cons]
      exact fun hbegins => keysDistinct_ne_of_sublist hkeys hsteps hbegins.1.symm
  | within hchild _ ih =>
      rw [List.cons_prefix_cons]
      exact fun hbegins => ih (keysDistinct_of_child? hkeys hchild) hbegins.2

/-- Where two locations part, the order of all that is inside them is decided. -/
theorem Precedes.append_append (hprecedes : value.Precedes way other) (hapart : ¬ way <+: other)
    (further furtherOther : Location) :
    value.Precedes (way ++ further) (other ++ furtherOther) := by
  induction hprecedes with
  | inside => exact absurd List.nil_prefix hapart
  | beside hsteps => exact .beside hsteps
  | within hchild _ ih =>
      refine .within hchild (ih fun hbegins => hapart ?_)
      exact List.cons_prefix_cons.mpr ⟨rfl, hbegins⟩

theorem pairwise_children (value : Json) :
    (value.children.map fun node => [node.1]).Pairwise value.Precedes := by
  have hsteps : (value.children.map Prod.fst).Pairwise fun first second =>
      value.Precedes [first] [second] :=
    List.pairwise_iff_forall_sublist.mpr fun hsteps => .beside hsteps
  have hways : (value.children.map fun node => [node.1]) =
      (value.children.map Prod.fst).map fun step => [step] := by simp [Function.comp_def]
  rw [hways]
  exact hsteps.map _ fun _ _ hprecedes => hprecedes

/-- Everything inside a value is listed in the order of the document. -/
theorem pairwise_descendants (hkeys : value.KeysDistinct) :
    (value.descendants.map Prod.fst).Pairwise value.Precedes := by
  induction value using children_induction with
  | node value ih =>
      rw [descendants_eq, List.map_cons, List.pairwise_cons, List.map_flatMap]
      constructor
      · intro way hway
        obtain ⟨node, -, hway⟩ := List.mem_flatMap.mp hway
        obtain ⟨found, hfound, rfl⟩ := List.mem_map.mp hway
        obtain ⟨inside, -, rfl⟩ := List.mem_map.mp hfound
        exact .inside
      · refine List.pairwise_flatMap.mpr ⟨fun node hnode => ?_, ?_⟩
        · -- inside one child
          have hchild := (mem_children_iff hkeys).mp hnode
          have hinside := ih node hnode (keysDistinct_of_mem_children hkeys hnode)
          rw [List.map_map, List.pairwise_map]
          exact (List.pairwise_map.mp hinside).imp fun hprecedes => .within hchild hprecedes
        · -- inside one child and inside a later one
          have hsteps : value.children.Pairwise fun node later =>
              [node.1, later.1].Sublist (value.children.map Prod.fst) :=
            List.pairwise_map.mp (List.pairwise_iff_forall_sublist.mpr fun hsteps => hsteps)
          refine hsteps.imp fun {node later} hsteps way hway other hother => ?_
          obtain ⟨found, hfound, rfl⟩ := List.mem_map.mp hway
          obtain ⟨inside, -, rfl⟩ := List.mem_map.mp hfound
          obtain ⟨foundLater, hfoundLater, rfl⟩ := List.mem_map.mp hother
          obtain ⟨insideLater, -, rfl⟩ := List.mem_map.mp hfoundLater
          exact .beside hsteps

theorem numbered_take (start count : Nat) (items : List Json) :
    numbered start (items.take count) = (numbered start items).take count := by
  induction items generalizing start count with
  | nil => simp [numbered]
  | cons item rest ih =>
      cases count with
      | zero => rfl
      | succ count => rw [List.take_succ_cons, numbered, ih, numbered, List.take_succ_cons]

theorem numbered_drop (start count : Nat) (items : List Json) :
    numbered (start + count) (items.drop count) = (numbered start items).drop count := by
  induction items generalizing start count with
  | nil => simp [numbered]
  | cons item rest ih =>
      cases count with
      | zero => rfl
      | succ count =>
          rw [List.drop_succ_cons, numbered, List.drop_succ_cons, ← ih (start + 1) count,
            Nat.add_right_comm, Nat.add_assoc]

end Json

namespace Query

variable {segment : Segment} {segments first second : List Segment} {value : Json}

/-! ## One segment -/

theorem childNodes_sublist (hkeys : value.KeysDistinct) (step : Step) :
    ((value.childNodes step).map Prod.fst).Sublist
      (value.children.map fun node => [node.1]) := by
  unfold Json.childNodes
  cases hchild : value.child? step with
  | none => exact List.nil_sublist _
  | some child =>
      have hmem : (step, child) ∈ value.children := (Json.mem_children_iff hkeys).mpr hchild
      exact List.singleton_sublist.mpr (List.mem_map_of_mem hmem)

/-- A segment other than `..` finds children, in their order. -/
theorem step_sublist (hkeys : value.KeysDistinct) (hsegment : segment ≠ .descend) :
    ((step segment value).map Prod.fst).Sublist (value.children.map fun node => [node.1]) := by
  cases segment with
  | descend => exact absurd rfl hsegment
  | all =>
      rw [step, List.map_map]
      exact List.Sublist.refl _
  | slice start stop =>
      cases value with
      | list items =>
          have hdrop (first : Nat) (items : List Json) :
              Json.numbered first (items.drop first) = (Json.numbered 0 items).drop first := by
            rw [← Json.numbered_drop, Nat.zero_add]
          rw [step, List.map_map]
          dsimp only
          rw [hdrop, Json.numbered_take]
          exact ((List.drop_sublist _ _).trans (List.take_sublist _ _)).map
            fun node : Step × Json => [node.1]
      | _ => exact List.nil_sublist _
  | index position =>
      cases value with
      | list items =>
          rw [step_item]
          split
          · exact List.nil_sublist _
          · exact childNodes_sublist hkeys _
      | _ => exact childNodes_sublist hkeys (.key (Text.ofInt position))
  | key name => exact childNodes_sublist hkeys (.key name)

theorem pairwise_step (hkeys : value.KeysDistinct) (segment : Segment) :
    ((step segment value).map Prod.fst).Pairwise value.Precedes := by
  by_cases hsegment : segment = .descend
  · rw [hsegment]
    exact Json.pairwise_descendants hkeys
  · exact (Json.pairwise_children value).sublist (step_sublist hkeys hsegment)

/-! ## Segments one after the other -/

theorem select_append (first second : List Segment) (value : Json) :
    select (first ++ second) value = (select first value).flatMap fun node =>
      (select second node.2).map fun found => (node.1 ++ found.1, found.2) := by
  induction first generalizing value with
  | nil => simp [select]
  | cons segment rest ih =>
      rw [List.cons_append, select, select, List.flatMap_assoc]
      refine List.flatMap_congr fun node _ => ?_
      obtain ⟨way, inner⟩ := node
      dsimp only
      rw [ih, List.map_flatMap, List.flatMap_map]
      simp [List.append_assoc, Function.comp_def]

theorem locations_append (first second : List Segment) (value : Json) :
    locations (first ++ second) value = (select first value).flatMap fun node =>
      (locations second node.2).map (node.1 ++ ·) := by
  rw [locations, select_append, List.map_flatMap]
  simp only [locations, List.map_map, Function.comp_def]

theorem locations_singleton (segment : Segment) (value : Json) :
    locations [segment] value = (step segment value).map Prod.fst := by
  rw [locations, select_singleton]

theorem at?_of_mem_select (hkeys : value.KeysDistinct) {node : Node}
    (hnode : node ∈ select segments value) : value.at? node.1 = some node.2 :=
  ((mem_select_iff hkeys).mp hnode).2

/-- The order of the document is kept if none of the first locations lies inside another. -/
theorem pairwise_append (hkeys : value.KeysDistinct)
    (hfirst : (locations first value).Pairwise fun way other =>
      value.Precedes way other ∧ ¬ way <+: other)
    (hsecond : ∀ node ∈ select first value, (locations second node.2).Pairwise node.2.Precedes) :
    (locations (first ++ second) value).Pairwise value.Precedes := by
  rw [locations_append]
  refine List.pairwise_flatMap.mpr ⟨fun node hnode => ?_, ?_⟩
  · rw [List.pairwise_map]
    exact (hsecond node hnode).imp fun hprecedes =>
      hprecedes.append (at?_of_mem_select hkeys hnode)
  · refine (List.pairwise_map.mp hfirst).imp fun hnodes way hway other hother => ?_
    obtain ⟨further, -, rfl⟩ := List.mem_map.mp hway
    obtain ⟨furtherOther, -, rfl⟩ := List.mem_map.mp hother
    exact hnodes.1.append_append hnodes.2 further furtherOther

/-- Locations of the same length do not lie inside one another. -/
theorem not_isPrefix_of_mem_locations (hkeys : value.KeysDistinct)
    (hsegments : .descend ∉ segments) {way other : Location}
    (hway : way ∈ locations segments value) (hother : other ∈ locations segments value)
    (hprecedes : value.Precedes way other) : ¬ way <+: other := by
  have hlength : way.length = other.length := by
    rw [length_of_matches ((mem_locations_iff hkeys).mp hway) hsegments,
      length_of_matches ((mem_locations_iff hkeys).mp hother) hsegments]
  intro hbegins
  rw [hbegins.eq_of_length hlength] at hprecedes
  exact hprecedes.not_isPrefix hkeys (List.prefix_refl other)

/-- Without `..`, or with `..` as the last segment, the order is that of the document. -/
theorem pairwise_locations (hkeys : value.KeysDistinct)
    (hsegments : .descend ∉ segments.dropLast) :
    (locations segments value).Pairwise value.Precedes := by
  -- the last segment is taken off: what the others find has one length, if none of them is `..`
  induction segments using List.reverseRecOn with
  | nil => exact List.pairwise_singleton _ _
  | append_singleton segments last ih =>
      rw [List.dropLast_concat] at hsegments
      have hfirst := ih fun hmem => hsegments (List.dropLast_subset segments hmem)
      refine pairwise_append hkeys ?_ fun node hnode => ?_
      · exact hfirst.imp_of_mem fun hway hother hprecedes =>
          ⟨hprecedes, not_isPrefix_of_mem_locations hkeys hsegments hway hother hprecedes⟩
      · rw [locations_singleton]
        exact pairwise_step (Json.keysDistinct_of_at? hkeys (at?_of_mem_select hkeys hnode)) last

/-! ## Behind two dots -/

/-- A location without the steps of the last segments, of which there are `count`. -/
def base (count : Nat) (way : Location) : Location :=
  way.take (way.length - count)

theorem base_append {count : Nat} {way further : Location} (hlength : further.length = count) :
    base count (way ++ further) = way := by
  rw [base, List.length_append, hlength, Nat.add_sub_cancel, List.take_left' rfl]

theorem base_append_drop (count : Nat) (way : Location) :
    base count way ++ way.drop (way.length - count) = way :=
  List.take_append_drop _ _

/-- How locations are ordered of which the last `count` steps were found behind `..`: by their
bases, and those of one base by the order of the document. -/
def FoundBefore (value : Json) (count : Nat) (way other : Location) : Prop :=
  value.Precedes (base count way) (base count other) ∨
    base count way = base count other ∧ value.Precedes way other

theorem pairwise_foundBefore (hkeys : value.KeysDistinct) (hfirst : .descend ∉ first)
    (hsecond : .descend ∉ second) :
    (locations (first ++ .descend :: second) value).Pairwise
      (FoundBefore value second.length) := by
  rw [List.append_cons, locations_append]
  have hlength (node : Node) (hnode : node ∈ select (first ++ [.descend]) value)
      (further : Location) (hfurther : further ∈ locations second node.2) :
      further.length = second.length := by
    have hinner := Json.keysDistinct_of_at? hkeys (at?_of_mem_select hkeys hnode)
    exact length_of_matches ((mem_locations_iff hinner).mp hfurther) hsecond
  refine List.pairwise_flatMap.mpr ⟨fun node hnode => ?_, ?_⟩
  · have hat := at?_of_mem_select hkeys hnode
    have hrest := pairwise_locations (Json.keysDistinct_of_at? hkeys hat)
      fun hmem => hsecond (List.dropLast_subset second hmem)
    rw [List.pairwise_map]
    refine hrest.imp_of_mem fun hway hother hprecedes => .inr ⟨?_, hprecedes.append hat⟩
    rw [base_append (hlength node hnode _ hway), base_append (hlength node hnode _ hother)]
  · have hbases : (locations (first ++ [.descend]) value).Pairwise value.Precedes :=
      pairwise_locations hkeys (by rwa [List.dropLast_concat])
    refine (List.pairwise_map.mp hbases).imp_of_mem fun hnode hlater hprecedes => ?_
    intro way hway other hother
    obtain ⟨further, hfurther, rfl⟩ := List.mem_map.mp hway
    obtain ⟨furtherLater, hfurtherLater, rfl⟩ := List.mem_map.mp hother
    refine .inl ?_
    rwa [base_append (hlength _ hnode _ hfurther), base_append (hlength _ hlater _ hfurtherLater)]

/-- What is ordered by bases is in the order of the document if this is so wherever one base lies
inside another, and only then. -/
theorem pairwise_precedes_iff (hkeys : value.KeysDistinct) {count : Nat} {ways : List Location}
    (hways : ways.Pairwise (FoundBefore value count)) :
    ways.Pairwise value.Precedes ↔
      ∀ way ∈ ways, ∀ other ∈ ways, base count way <+: base count other →
        base count way ≠ base count other → value.Precedes way other := by
  constructor
  · intro hordered way hway other hother hbegins hne
    -- which of the two comes first in the list is not known yet
    have hboth : ways.Pairwise fun way other =>
        (FoundBefore value count way other ∧ value.Precedes way other) ∨
          FoundBefore value count other way ∧ value.Precedes other way :=
      (hways.and hordered).imp .inl
    have hsymmetric : Std.Symm fun way other : Location =>
        (FoundBefore value count way other ∧ value.Precedes way other) ∨
          FoundBefore value count other way ∧ value.Precedes other way :=
      ⟨fun _ _ => Or.symm⟩
    have hdistinct : way ≠ other := fun heq => hne (congrArg (base count) heq)
    rcases hboth.forall hway hother hdistinct with ⟨-, hprecedes⟩ | ⟨hinner | ⟨heq, -⟩, -⟩
    · exact hprecedes
    · exact absurd hbegins (hinner.not_isPrefix hkeys)
    · exact absurd heq.symm hne
  · intro hnested
    refine hways.imp_of_mem fun {way other} hway hother hfound => ?_
    rcases hfound with hbases | ⟨-, hprecedes⟩
    · by_cases hbegins : base count way <+: base count other
      · refine hnested way hway other hother hbegins fun heq => ?_
        exact hbases.not_isPrefix hkeys (heq ▸ List.prefix_refl _)
      · rw [← base_append_drop count way, ← base_append_drop count other]
        exact hbases.append_append hbegins _ _
    · exact hprecedes

end Query

/-- Where at most one segment is `..`, the locations are in the order of the document if it is
missing or stands last.  With segments behind it they are ordered by their bases first, and this is
the order of the document just where no location comes too late because the base of another lies
around its own. -/
theorem locations_ordered {value : Json} (hkeys : value.KeysDistinct) {segments : List Segment}
    (hdescend : segments.count .descend ≤ 1) :
    (Query.values segments value).map some = (Query.locations segments value).map value.at? ∧
    (.descend ∉ segments.dropLast →
      (Query.locations segments value).Pairwise value.Precedes) ∧
    ∀ first second, segments = first ++ .descend :: second →
      (Query.locations segments value).Pairwise (Query.FoundBefore value second.length) ∧
      ((Query.locations segments value).Pairwise value.Precedes ↔
        ∀ way ∈ Query.locations segments value, ∀ other ∈ Query.locations segments value,
          Query.base second.length way <+: Query.base second.length other →
            Query.base second.length way ≠ Query.base second.length other →
              value.Precedes way other) := by
  refine ⟨Query.values_eq hkeys, Query.pairwise_locations hkeys, fun first second heq => ?_⟩
  have hfirst : Segment.descend ∉ first ∧ Segment.descend ∉ second := by
    rw [heq, List.count_append, List.count_cons_self] at hdescend
    rw [← List.count_eq_zero, ← List.count_eq_zero]
    omega
  have hfound := Query.pairwise_foundBefore hkeys hfirst.1 hfirst.2
  rw [← heq] at hfound
  exact ⟨hfound, Query.pairwise_precedes_iff hkeys hfound⟩

/-- Inside a list, where the inner `id` stands behind the outer one, and with it the values. -/
theorem locations_ordered_nested :
    let value : Json := .object [("id", .int 1), ("a", .list [.object [("id", .int 2)]])]
    let segments : List Segment := [.descend, .key "id"]
    value.KeysDistinct ∧ segments.count .descend ≤ 1 ∧
      (Query.locations segments value).Pairwise value.Precedes := by
  intro value segments
  have hkeys : value.KeysDistinct := by
    simp [value, Json.KeysDistinct, Json.itemsKeysDistinct, Json.fieldsKeysDistinct]
  have hdescend : segments.count .descend ≤ 1 := by decide
  obtain ⟨-, -, hbases⟩ := locations_ordered hkeys hdescend
  refine ⟨hkeys, hdescend, (hbases [] [.key "id"] rfl).2.mpr ?_⟩
  have hlocations : Query.locations segments value =
      [[.key "id"], [.key "a", .index 0, .key "id"]] := by decide
  have hinOrder : value.Precedes [.key "id"] [.key "a", .index 0, .key "id"] :=
    .beside (List.Sublist.refl _)
  rw [hlocations]
  intro way hway other hother hbegins hne
  simp only [List.mem_cons, List.not_mem_nil, or_false] at hway hother
  rcases hway with rfl | rfl <;> rcases hother with rfl | rfl
  · exact absurd rfl hne
  · exact hinOrder
  · exact absurd hbegins (by decide)
  · exact absurd rfl hne

/-- An object that holds the `id` of an inner one before its own: `$..id` finds its own first. -/
theorem locations_not_ordered :
    let value : Json := .object [("a", .object [("id", .int 1)]), ("id", .int 2)]
    ∃ segments, Query.read "$..id" = .ok segments ∧ segments.count .descend = 1 ∧
      Query.locations segments value = [[.key "id"], [.key "a", .key "id"]] ∧
      value.Precedes [.key "a", .key "id"] [.key "id"] ∧
      ¬ (Query.locations segments value).Pairwise value.Precedes := by
  intro value
  have hlocations : Query.locations [.descend, .key "id"] value =
      [[.key "id"], [.key "a", .key "id"]] := by decide
  refine ⟨[.descend, .key "id"], by decide, by decide, hlocations,
    .beside (List.Sublist.refl _), fun hordered => ?_⟩
  rw [hlocations, List.pairwise_pair] at hordered
  cases hordered with
  | beside hsteps => exact absurd hsteps (by decide)

end HttpScript
