import HttpScript.Proofs.Query.Locations
import HttpScript.Redaction

/-!
# Covering places of a value

A redaction puts marks over places of a value, one after the other.  What comes out in the end does
not depend on the order: it is the value with a mark in every place that is covered, except where
a place above it is covered already.  So covering is defined for all places at once, by the set of
the locations that are covered, and putting on one mark is the case of a single location
(`replaceAt_eq_cover`).

Two laws make redactions add up.  Covering twice covers the union (`cover_cover`), and locations
below a covered one do not count (`cover_congr`).
-/

namespace HttpScript

namespace Json

/-! ## Changing the children of a value -/

/-- Two values that are the same but for what is inside them: the keys of an object with their
order, the length of a list, and the whole of anything else. -/
def SameShape : Json → Json → Prop
  | .object fields, .object others => Table.names fields = Table.names others
  | .list items, .list others => items.length = others.length
  | value, other => value = other

/-- Changes each child of a value by the step to it. -/
def mapChildren (change : Step → Json → Json) : Json → Json
  | .list items => .list (items.mapIdx fun index item => change (.index index) item)
  | .object fields => .object (fields.map fun field => (field.1, change (.key field.1) field.2))
  | scalar => scalar

variable {value child : Json} {step : Step} {change other : Step → Json → Json}

theorem mapIdx_self (items : List Json) : (items.mapIdx fun _ item => item) = items :=
  List.ext_getElem (by simp) (by simp)

theorem sameShape_mapChildren (change : Step → Json → Json) (value : Json) :
    SameShape value (value.mapChildren change) := by
  cases value with
  | list items => simp [SameShape, mapChildren]
  | object fields => simp [SameShape, mapChildren, Table.names, Function.comp_def]
  | null | bool _ | int _ | float _ | str _ => rfl

theorem mem_children_of_getElem {items : List Json} {index : Nat} (hindex : index < items.length) :
    (.index index, items[index]) ∈ (Json.list items).children :=
  mem_numbered_iff.mpr ⟨index, by simp, List.getElem?_eq_getElem hindex⟩

theorem mem_children_of_mem_fields {fields : List (Text × Json)} {field : Text × Json}
    (hfield : field ∈ fields) : (.key field.1, field.2) ∈ (Json.object fields).children :=
  List.mem_map.mpr ⟨field, hfield, rfl⟩

theorem mapChildren_congr
    (hchange : ∀ node ∈ value.children, change node.1 node.2 = other node.1 node.2) :
    value.mapChildren change = value.mapChildren other := by
  cases value with
  | list items =>
      rw [mapChildren, mapChildren, list.injEq, List.mapIdx_eq_mapIdx_iff]
      exact fun index hindex => hchange _ (mem_children_of_getElem hindex)
  | object fields =>
      rw [mapChildren, mapChildren, object.injEq]
      refine List.map_congr_left fun field hfield => ?_
      rw [hchange _ (mem_children_of_mem_fields hfield)]
  | null | bool _ | int _ | float _ | str _ => rfl

theorem mapChildren_mapChildren (change other : Step → Json → Json) (value : Json) :
    (value.mapChildren other).mapChildren change =
      value.mapChildren fun step child => change step (other step child) := by
  cases value with
  | list items => simp [mapChildren, List.mapIdx_mapIdx, Function.comp_def]
  | object fields => simp [mapChildren, Function.comp_def]
  | null | bool _ | int _ | float _ | str _ => rfl

theorem mapChildren_eq_self (hchange : ∀ node ∈ value.children, change node.1 node.2 = node.2) :
    value.mapChildren change = value := by
  have hself : (value.mapChildren fun _ child => child) = value := by
    cases value with
    | list items => rw [mapChildren, mapIdx_self]
    | object fields => simp [mapChildren]
    | null | bool _ | int _ | float _ | str _ => rfl
  exact (mapChildren_congr hchange).trans hself

theorem child?_mapChildren (change : Step → Json → Json) (value : Json) (step : Step) :
    (value.mapChildren change).child? step = (value.child? step).map (change step) := by
  cases value with
  | list items => cases step <;> simp [mapChildren, child?]
  | object fields =>
      cases step with
      | index position => rfl
      | key name =>
          rw [mapChildren, child?, child?]
          induction fields with
          | nil => rfl
          | cons field rest ih =>
              rw [List.map_cons, Table.get?, Table.get?]
              split
              · next hkey => rw [hkey, Option.map_some]
              · exact ih
  | null | bool _ | int _ | float _ | str _ => cases step <;> rfl

theorem keysDistinct_mapChildren (hkeys : value.KeysDistinct)
    (hchange : ∀ node ∈ value.children, (change node.1 node.2).KeysDistinct) :
    (value.mapChildren change).KeysDistinct := by
  cases value with
  | list items =>
      rw [mapChildren, KeysDistinct, itemsKeysDistinct_iff]
      intro item hitem
      obtain ⟨index, hindex, rfl⟩ := List.mem_mapIdx.mp hitem
      exact hchange _ (mem_children_of_getElem hindex)
  | object fields =>
      rw [KeysDistinct] at hkeys
      rw [mapChildren, KeysDistinct, fieldsKeysDistinct_iff]
      refine ⟨by simpa [Function.comp_def] using hkeys.1, fun field hfield => ?_⟩
      obtain ⟨first, hfirst, rfl⟩ := List.mem_map.mp hfield
      exact hchange _ (mem_children_of_mem_fields hfirst)
  | null | bool _ | int _ | float _ | str _ => trivial

end Json

namespace Redaction

/-! ## Covering -/

/-- The covered locations behind a way, as they are seen from its end. -/
def behind (way : Location) (covered : Location → Bool) : Location → Bool :=
  fun further => covered (way ++ further)

mutual

/-- A value with the mark in every covered place. -/
def cover (covered : Location → Bool) (value : Json) : Json :=
  if covered [] then .str mark
  else match value with
    | .list items => .list (coverItems covered 0 items)
    | .object fields => .object (coverFields covered fields)
    | scalar => scalar

/-- The items of a list from a position on with the mark in every covered place. -/
def coverItems (covered : Location → Bool) (start : Nat) : List Json → List Json
  | [] => []
  | item :: rest =>
      cover (behind [.index start] covered) item :: coverItems covered (start + 1) rest

/-- The fields of an object with the mark in every covered place. -/
def coverFields (covered : Location → Bool) : List (Text × Json) → List (Text × Json)
  | [] => []
  | (name, value) :: rest =>
      (name, cover (behind [.key name] covered) value) :: coverFields covered rest

end

/-- Nothing above a location is covered. -/
def ClearAbove (covered : Location → Bool) (way : Location) : Prop :=
  ∀ before, before <+: way → before ≠ way → covered before = false

variable {covered first second : Location → Bool} {value : Json} {way : Location} {step : Step}

theorem clearAbove_nil : ClearAbove covered [] := by
  intro before hbefore hne
  exact absurd (List.prefix_nil.mp hbefore) hne

theorem clearAbove_cons_iff :
    ClearAbove covered (step :: way) ↔
      covered [] = false ∧ ClearAbove (behind [step] covered) way := by
  constructor
  · intro hclear
    refine ⟨hclear [] List.nil_prefix (List.cons_ne_nil _ _).symm, fun before hbefore hne => ?_⟩
    refine hclear (step :: before) (List.cons_prefix_cons.mpr ⟨rfl, hbefore⟩) fun heq => ?_
    exact hne (List.cons.inj heq).2
  · rintro ⟨hroot, hclear⟩ before hbefore hne
    rcases List.prefix_cons_iff.mp hbefore with rfl | ⟨rest, rfl, hrest⟩
    · exact hroot
    · exact hclear rest hrest fun heq => hne (heq ▸ rfl)

theorem coverItems_eq (covered : Location → Bool) (start : Nat) (items : List Json) :
    coverItems covered start items =
      items.mapIdx fun index item => cover (behind [.index (start + index)] covered) item := by
  induction items generalizing start with
  | nil => rfl
  | cons item rest ih =>
      rw [coverItems, ih, List.mapIdx_cons]
      simp only [Nat.add_zero, Nat.add_assoc, Nat.add_comm 1]

theorem coverFields_eq (covered : Location → Bool) (fields : List (Text × Json)) :
    coverFields covered fields =
      fields.map fun field => (field.1, cover (behind [.key field.1] covered) field.2) := by
  induction fields with
  | nil => rfl
  | cons field rest ih => rw [coverFields, ih, List.map_cons]

theorem cover_of_covered (hroot : covered [] = true) (value : Json) :
    cover covered value = .str mark := by
  unfold cover
  exact if_pos hroot

theorem cover_of_clear (hroot : covered [] = false) (value : Json) :
    cover covered value =
      value.mapChildren fun step child => cover (behind [step] covered) child := by
  have hnot : ¬ covered [] = true := by simp [hroot]
  cases value with
  | list items =>
      conv_lhs => rw [cover, if_neg hnot, coverItems_eq]
      simp only [Json.mapChildren, Nat.zero_add]
  | object fields =>
      conv_lhs => rw [cover, if_neg hnot, coverFields_eq]
      rfl
  | null | bool _ | int _ | float _ | str _ =>
      unfold cover
      exact if_neg hnot

theorem cover_mark (covered : Location → Bool) : cover covered (.str mark) = .str mark := by
  cases hroot : covered [] with
  | true => exact cover_of_covered hroot _
  | false =>
      rw [cover_of_clear hroot]
      rfl

/-- Where nothing is covered, nothing is changed. -/
theorem cover_eq_self (hclear : ∀ way, covered way = false) (value : Json) :
    cover covered value = value := by
  induction value using Json.children_induction generalizing covered with
  | node value ih =>
      rw [cover_of_clear (hclear [])]
      exact Json.mapChildren_eq_self fun node hnode => ih node hnode fun way => hclear _

/-- Only the locations count above which nothing is covered. -/
theorem cover_congr (hsame : ∀ way, ClearAbove first way → first way = second way) (value : Json) :
    cover first value = cover second value := by
  induction value using Json.children_induction generalizing first second with
  | node value ih =>
      have hroot : first [] = second [] := hsame [] clearAbove_nil
      cases hfirst : first [] with
      | true => rw [cover_of_covered hfirst, cover_of_covered (hroot.symm.trans hfirst)]
      | false =>
          rw [cover_of_clear hfirst, cover_of_clear (hroot.symm.trans hfirst)]
          refine Json.mapChildren_congr fun node hnode => ih node hnode fun way hway => ?_
          exact hsame (node.1 :: way) (clearAbove_cons_iff.mpr ⟨hfirst, hway⟩)

/-- Covering twice covers what is covered once or the other time. -/
theorem cover_cover (first second : Location → Bool) (value : Json) :
    cover first (cover second value) = cover (fun way => first way || second way) value := by
  induction value using Json.children_induction generalizing first second with
  | node value ih =>
      cases hsecond : second [] with
      | true => rw [cover_of_covered hsecond, cover_mark, cover_of_covered (by simp [hsecond])]
      | false =>
          cases hfirst : first [] with
          | true => rw [cover_of_covered hfirst, cover_of_covered (by simp [hfirst])]
          | false =>
              rw [cover_of_clear hsecond, cover_of_clear hfirst,
                cover_of_clear (by simp [hfirst, hsecond]), Json.mapChildren_mapChildren]
              exact Json.mapChildren_congr fun node hnode => ih node hnode _ _

theorem keysDistinct_cover (hkeys : value.KeysDistinct) (covered : Location → Bool) :
    (cover covered value).KeysDistinct := by
  induction value using Json.children_induction generalizing covered with
  | node value ih =>
      cases hroot : covered [] with
      | true =>
          rw [cover_of_covered hroot]
          trivial
      | false =>
          rw [cover_of_clear hroot]
          refine Json.keysDistinct_mapChildren hkeys fun node hnode => ?_
          exact ih node hnode (Json.keysDistinct_of_mem_children hkeys hnode) _

/-- What is at a location above which nothing is covered. -/
theorem at?_cover (hclear : ClearAbove covered way) :
    (cover covered value).at? way = (value.at? way).map (cover (behind way covered)) := by
  induction way generalizing covered value with
  | nil => rfl
  | cons step rest ih =>
      obtain ⟨hroot, hrest⟩ := clearAbove_cons_iff.mp hclear
      rw [cover_of_clear hroot, Json.at?_cons, Json.at?_cons, Json.child?_mapChildren]
      cases value.child? step with
      | none => rfl
      | some child => exact ih hrest

theorem at?_cover_of_covered (hclear : ClearAbove covered way) (hway : covered way = true)
    (hat : (value.at? way).isSome = true) : (cover covered value).at? way = some (.str mark) := by
  obtain ⟨inner, hinner⟩ := Option.isSome_iff_exists.mp hat
  have hroot : behind way covered [] = true := by rw [behind, List.append_nil, hway]
  rw [at?_cover hclear, hinner, Option.map_some, cover_of_covered hroot]

theorem sameShape_cover (hroot : covered [] = false) (value : Json) :
    Json.SameShape value (cover covered value) := by
  rw [cover_of_clear hroot]
  exact Json.sameShape_mapChildren _ value

/-- What is neither covered nor below a covered place keeps its shape. -/
theorem sameShape_at?_cover (hnone : ∀ before, before <+: way → covered before = false) :
    Option.Rel Json.SameShape (value.at? way) ((cover covered value).at? way) := by
  rw [at?_cover fun before hbefore _ => hnone before hbefore]
  cases value.at? way with
  | none => exact .none
  | some inner =>
      refine .some (sameShape_cover ?_ inner)
      rw [behind, List.append_nil]
      exact hnone way (List.prefix_refl way)

/-- What has no covered place above or inside it is left as it is. -/
theorem at?_cover_of_apart
    (hapart : ∀ place, covered place = true → ¬ place <+: way ∧ ¬ way <+: place) :
    (cover covered value).at? way = value.at? way := by
  have hnone (place : Location) (hplace : place <+: way ∨ way <+: place) :
      covered place = false := by
    refine Bool.eq_false_iff.mpr fun hcovered => ?_
    obtain ⟨habove, hbelow⟩ := hapart place hcovered
    exact hplace.elim habove hbelow
  rw [at?_cover fun before hbefore _ => hnone before (.inl hbefore)]
  have hself := cover_eq_self fun further => hnone _ (.inr (List.prefix_append way further))
  cases value.at? way with
  | none => rfl
  | some inner => exact congrArg some (hself inner)

/-! ## One mark is one location covered -/

variable {placeholder item child changed : Json}

theorem replaceItem_eq (change : Json → Except Fault Json) {position : Nat} {items : List Json}
    (hitem : items[position]? = some item) (hchange : change item = .ok changed) :
    replaceItem change position items =
      .ok (items.mapIdx fun index item => if index = position then changed else item) := by
  induction items generalizing position with
  | nil => exact nomatch hitem
  | cons first rest ih =>
      cases position with
      | zero =>
          obtain rfl : first = item := by simpa using hitem
          rw [replaceItem, hchange]
          simp [List.mapIdx_cons, Json.mapIdx_self, bind, Except.bind, pure, Except.pure]
      | succ position =>
          rw [replaceItem, ih (by simpa using hitem)]
          simp [List.mapIdx_cons, bind, Except.bind, pure, Except.pure]

theorem replaceField_eq (change : Json → Except Fault Json) {fields : List (Text × Json)}
    (hnodup : (Table.names fields).Nodup) {name : Text}
    (hfield : Table.get? fields name = some item) (hchange : change item = .ok changed) :
    replaceField change name fields =
      .ok (fields.map fun field => (field.1, if field.1 = name then changed else field.2)) := by
  induction fields with
  | nil => exact nomatch hfield
  | cons field rest ih =>
      obtain ⟨key, value⟩ := field
      obtain ⟨hkey, hrest⟩ := List.nodup_cons.mp hnodup
      rw [Table.get?] at hfield
      by_cases hname : key = name
      · rw [if_pos hname] at hfield
        obtain rfl : value = item := Option.some.inj hfield
        have hkeep : (rest.map fun field =>
            (field.1, if field.1 = name then changed else field.2)) = rest := by
          refine (List.map_congr_left fun field hmem => ?_).trans (List.map_id rest)
          have hne : field.1 ≠ name := by
            rintro rfl
            exact hkey (List.mem_map.mpr ⟨field, hmem, hname.symm⟩)
          rw [if_neg hne]
          rfl
        simp [replaceField, hname, hchange, hkeep, bind, Except.bind, pure, Except.pure]
      · rw [if_neg hname] at hfield
        simp [replaceField, hname, ih hrest hfield, bind, Except.bind, pure, Except.pure]

theorem set_eq_map {fields : List (Text × Json)} (hnodup : (Table.names fields).Nodup)
    {name : Text} (hfield : Table.get? fields name = some item) (placeholder : Json) :
    Table.set fields name placeholder =
      fields.map fun field => (field.1, if field.1 = name then placeholder else field.2) := by
  have hreplace : replaceField (fun _ => .ok placeholder) name fields =
      .ok (Table.set fields name placeholder) := by
    clear hnodup
    induction fields with
    | nil => exact nomatch hfield
    | cons field rest ih =>
        obtain ⟨key, value⟩ := field
        rw [Table.get?] at hfield
        by_cases hname : key = name
        · simp [replaceField, Table.set, hname, bind, Except.bind, pure, Except.pure]
        · rw [if_neg hname] at hfield
          simp [replaceField, Table.set, hname, ih hfield, bind, Except.bind, pure, Except.pure]
  rw [replaceField_eq (fun _ => .ok placeholder) hnodup hfield rfl] at hreplace
  exact (Except.ok.inj hreplace).symm

theorem replaceAt_singleton (hkeys : value.KeysDistinct)
    (hchild : value.child? step = some child) (placeholder : Json) :
    replaceAt placeholder [step] value =
      .ok (value.mapChildren fun other inner => if other = step then placeholder else inner) := by
  cases value with
  | list items =>
      cases step with
      | key name => cases hchild
      | index position =>
          rw [replaceAt, replaceItem_eq (fun _ => .ok placeholder) hchild rfl]
          simp [Json.mapChildren, bind, Except.bind, pure, Except.pure]
  | object fields =>
      cases step with
      | key name =>
          rw [Json.KeysDistinct] at hkeys
          rw [replaceAt, set_eq_map hkeys.1 hchild]
          simp [Json.mapChildren]
      | index position => cases hchild
  | null | bool _ | int _ | float _ | str _ => cases step <;> cases hchild

theorem replaceAt_cons (hkeys : value.KeysDistinct)
    (hchild : value.child? step = some child) (hway : way ≠ [])
    (hchange : replaceAt placeholder way child = .ok changed) :
    replaceAt placeholder (step :: way) value =
      .ok (value.mapChildren fun other inner => if other = step then changed else inner) := by
  obtain ⟨next, rest, rfl⟩ := List.exists_cons_of_ne_nil hway
  cases value with
  | list items =>
      cases step with
      | key name => cases hchild
      | index position =>
          rw [replaceAt, replaceItem_eq _ hchild hchange]
          · simp [Json.mapChildren, bind, Except.bind, pure, Except.pure]
          · simp
  | object fields =>
      cases step with
      | key name =>
          rw [Json.KeysDistinct] at hkeys
          rw [replaceAt, replaceField_eq _ hkeys.1 hchild hchange]
          · simp [Json.mapChildren, bind, Except.bind, pure, Except.pure]
          · simp
      | index position => cases hchild
  | null | bool _ | int _ | float _ | str _ => cases step <;> cases hchild

theorem cover_cons (hkeys : value.KeysDistinct)
    (hchild : value.child? step = some child) :
    cover (· = step :: way) value = value.mapChildren fun other inner =>
      if other = step then cover (· = way) child else inner := by
  have hbehind : behind [step] (· = step :: way) = (· = way) := by
    funext further
    simp [behind]
  rw [cover_of_clear (by simp)]
  refine Json.mapChildren_congr fun node hnode => ?_
  by_cases hstep : node.1 = step
  · have hnode := (Json.mem_children_iff hkeys).mp hnode
    rw [hstep, hchild] at hnode
    rw [if_pos hstep, hstep, hbehind, Option.some.inj hnode]
  · rw [if_neg hstep]
    exact cover_eq_self (by simp [behind, hstep]) node.2

/-- Putting the mark in the place of something is covering its location. -/
theorem replaceAt_eq_cover (hkeys : value.KeysDistinct) (hway : way ≠ [])
    (hat : (value.at? way).isSome = true) :
    replaceAt (.str mark) way value = .ok (cover (· = way) value) := by
  induction way generalizing value with
  | nil => exact absurd rfl hway
  | cons step rest ih =>
      obtain ⟨inner, hinner⟩ := Option.isSome_iff_exists.mp hat
      obtain ⟨child, hchild, hinner⟩ := Option.bind_eq_some_iff.mp hinner
      rw [cover_cons hkeys hchild]
      cases rest with
      | nil =>
          rw [cover_of_covered (by simp)]
          exact replaceAt_singleton hkeys hchild _
      | cons next rest =>
          refine replaceAt_cons hkeys hchild (List.cons_ne_nil _ _) ?_
          exact ih (Json.keysDistinct_of_child? hkeys hchild) (List.cons_ne_nil _ _)
            (Option.isSome_of_eq_some hinner)

end Redaction

end HttpScript
