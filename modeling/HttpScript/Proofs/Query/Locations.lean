import HttpScript.Proofs.Placeholder.Texts
import HttpScript.Query.Selection
import Mathlib.Data.List.Infix
import Mathlib.Data.List.Nodup

/-!
# The places inside a value

A value is a tree: its children stand behind steps, and a location is a way of steps from the root.
Where no object has a key twice, every step leads to one child at most.  So a location stands for
one place, and the children that a value lists are those that its steps lead to.

Whatever is to be shown of all values is shown of a value from its children
(`Json.children_induction`), and inside a value from what is found behind a first step
(`Json.at?_append`).
-/

namespace HttpScript

namespace Json

/-! ## Children -/

theorem mem_numbered_iff {start : Nat} {items : List Json} {node : Step × Json} :
    node ∈ numbered start items ↔
      ∃ position, node.1 = .index (start + position) ∧ items[position]? = some node.2 := by
  induction items generalizing start with
  | nil => simp [numbered]
  | cons item rest ih =>
      rw [numbered, List.mem_cons, ih]
      constructor
      · rintro (rfl | ⟨position, hstep, hitem⟩)
        · exact ⟨0, rfl, rfl⟩
        · refine ⟨position + 1, ?_, hitem⟩
          rw [hstep, Nat.add_right_comm, Nat.add_assoc]
      · rintro ⟨position, hstep, hitem⟩
        cases position with
        | zero => exact .inl (Prod.ext hstep (by simpa using hitem.symm))
        | succ position =>
            refine .inr ⟨position, ?_, by simpa using hitem⟩
            rw [hstep, Nat.add_right_comm, Nat.add_assoc]

theorem mem_children_of_get? {fields : List (Text × Json)} {name : Text} {value : Json}
    (hvalue : Table.get? fields name = some value) :
    (.key name, value) ∈ (object fields).children :=
  List.mem_map_of_mem (Table.mem_of_get? hvalue)

theorem mem_children_of_getElem? {items : List Json} {position : Nat} {item : Json}
    (hitem : items[position]? = some item) : (.index position, item) ∈ (list items).children :=
  mem_numbered_iff.mpr ⟨position, by rw [Nat.zero_add], hitem⟩

theorem nodup_numbered (start : Nat) (items : List Json) :
    ((numbered start items).map Prod.fst).Nodup := by
  induction items generalizing start with
  | nil => exact List.nodup_nil
  | cons item rest ih =>
      refine List.nodup_cons.mpr ⟨fun hmem => ?_, ih (start + 1)⟩
      obtain ⟨node, hnode, hstep⟩ := List.mem_map.mp hmem
      obtain ⟨position, hposition, -⟩ := mem_numbered_iff.mp hnode
      rw [hposition] at hstep
      have hsame : start + 1 + position = start := Step.index.inj hstep
      omega

/-- The children are what the steps lead to. -/
theorem mem_children_iff {value : Json} (hkeys : value.KeysDistinct) {node : Step × Json} :
    node ∈ value.children ↔ value.child? node.1 = some node.2 := by
  obtain ⟨step, child⟩ := node
  cases value with
  | list items =>
      rw [children, mem_numbered_iff]
      cases step with
      | key name => simp [child?]
      | index position => simp [child?]
  | object fields =>
      rw [KeysDistinct] at hkeys
      cases step with
      | key name => simp [children, child?, Table.get?_eq_some_iff_mem hkeys.1]
      | index position => simp [children, child?]
  | null | bool _ | int _ | float _ | str _ => simp [children, child?]

theorem nodup_children {value : Json} (hkeys : value.KeysDistinct) :
    (value.children.map Prod.fst).Nodup := by
  cases value with
  | list items => exact nodup_numbered 0 items
  | object fields =>
      rw [KeysDistinct] at hkeys
      have hsteps : (children (.object fields)).map Prod.fst =
          (fields.map Prod.fst).map Step.key := by simp [children, Function.comp_def]
      rw [hsteps]
      exact hkeys.1.map fun _ _ => Step.key.inj
  | null | bool _ | int _ | float _ | str _ => exact List.nodup_nil

theorem sizeOf_lt_of_mem_children {value : Json} {node : Step × Json}
    (hnode : node ∈ value.children) : sizeOf node.2 < sizeOf value := by
  cases value with
  | list items =>
      have hitem := List.sizeOf_lt_of_mem (mem_of_mem_numbered hnode)
      simp only [list.sizeOf_spec]
      omega
  | object fields =>
      obtain ⟨⟨name, child⟩, hfield, rfl⟩ := List.mem_map.mp hnode
      have hsize := List.sizeOf_lt_of_mem hfield
      simp only [Prod.mk.sizeOf_spec, object.sizeOf_spec] at hsize ⊢
      omega
  | null | bool _ | int _ | float _ | str _ => exact nomatch hnode

/-- What holds of a value if it holds of its children holds of every value. -/
@[elab_as_elim]
theorem children_induction {motive : Json → Prop}
    (node : ∀ value, (∀ child ∈ value.children, motive child.2) → motive value) (value : Json) :
    motive value :=
  node value fun child _ => children_induction node child.2
termination_by value
decreasing_by exact sizeOf_lt_of_mem_children ‹_›

theorem itemsKeysDistinct_iff {items : List Json} :
    itemsKeysDistinct items ↔ ∀ item ∈ items, KeysDistinct item := by
  induction items with
  | nil => simp [itemsKeysDistinct]
  | cons item rest ih => simp [itemsKeysDistinct, ih]

theorem fieldsKeysDistinct_iff {fields : List (Text × Json)} :
    fieldsKeysDistinct fields ↔ ∀ field ∈ fields, KeysDistinct field.2 := by
  induction fields with
  | nil => simp [fieldsKeysDistinct]
  | cons field rest ih =>
      obtain ⟨name, value⟩ := field
      simp [fieldsKeysDistinct, ih]

theorem keysDistinct_of_mem_children {value : Json} (hkeys : value.KeysDistinct)
    {node : Step × Json} (hnode : node ∈ value.children) : node.2.KeysDistinct := by
  cases value with
  | list items =>
      rw [KeysDistinct, itemsKeysDistinct_iff] at hkeys
      exact hkeys _ (mem_of_mem_numbered hnode)
  | object fields =>
      rw [KeysDistinct, fieldsKeysDistinct_iff] at hkeys
      obtain ⟨field, hfield, rfl⟩ := List.mem_map.mp hnode
      exact hkeys.2 field hfield
  | null | bool _ | int _ | float _ | str _ => exact nomatch hnode

/-! ## What is at a location -/

variable {value inner child : Json} {step : Step} {way further : Location}

@[simp] theorem at?_nil (value : Json) : value.at? [] = some value := rfl

theorem at?_cons (value : Json) (step : Step) (way : Location) :
    value.at? (step :: way) = (value.child? step).bind fun child => child.at? way := rfl

@[simp] theorem at?_singleton (value : Json) (step : Step) :
    value.at? [step] = value.child? step := by
  rw [at?_cons]
  cases value.child? step <;> rfl

theorem at?_append (value : Json) (way further : Location) :
    value.at? (way ++ further) = (value.at? way).bind fun inner => inner.at? further := by
  induction way generalizing value with
  | nil => rfl
  | cons step rest ih =>
      rw [List.cons_append, at?_cons, at?_cons]
      cases value.child? step with
      | none => rfl
      | some child => exact ih child

theorem at?_append_of_at? (hinner : value.at? way = some inner) :
    value.at? (way ++ further) = inner.at? further := by
  rw [at?_append, hinner]
  rfl

theorem keysDistinct_of_child? (hkeys : value.KeysDistinct)
    (hchild : value.child? step = some child) : child.KeysDistinct :=
  keysDistinct_of_mem_children hkeys ((mem_children_iff hkeys).mpr hchild : (step, child) ∈ _)

theorem keysDistinct_of_at? (hkeys : value.KeysDistinct) (hinner : value.at? way = some inner) :
    inner.KeysDistinct := by
  induction way generalizing value with
  | nil =>
      rw [at?_nil] at hinner
      exact Option.some.inj hinner ▸ hkeys
  | cons step rest ih =>
      obtain ⟨child, hchild, hrest⟩ := Option.bind_eq_some_iff.mp hinner
      exact ih (keysDistinct_of_child? hkeys hchild) hrest

/-! ## Everything inside -/

theorem itemDescendants_eq (start : Nat) (items : List Json) :
    itemDescendants start items = (numbered start items).flatMap fun node =>
      node.2.descendants.map fun found => (node.1 :: found.1, found.2) := by
  induction items generalizing start with
  | nil => rfl
  | cons item rest ih => rw [itemDescendants, numbered, List.flatMap_cons, ih]

theorem fieldDescendants_eq (fields : List (Text × Json)) :
    fieldDescendants fields = (children (.object fields)).flatMap fun node =>
      node.2.descendants.map fun found => (node.1 :: found.1, found.2) := by
  induction fields with
  | nil => rfl
  | cons field rest ih =>
      rw [fieldDescendants, ih, children, children, List.map_cons, List.flatMap_cons]

/-- A value comes first, then whatever is inside its children, from the first child to the last. -/
theorem descendants_eq (value : Json) :
    value.descendants = ([], value) :: value.children.flatMap fun node =>
      node.2.descendants.map fun found => (node.1 :: found.1, found.2) := by
  cases value with
  | list items => rw [descendants, itemDescendants_eq, children]
  | object fields => rw [descendants, fieldDescendants_eq]
  | null | bool _ | int _ | float _ | str _ => simp [descendants, children]

/-- The nodes inside a value are its locations with what is there. -/
theorem mem_descendants_iff (hkeys : value.KeysDistinct) {node : Node} :
    node ∈ value.descendants ↔ value.at? node.1 = some node.2 := by
  induction value using children_induction generalizing node with
  | node value ih =>
      obtain ⟨way, inner⟩ := node
      rw [descendants_eq, List.mem_cons, List.mem_flatMap]
      simp only [List.mem_map, Prod.mk.injEq]
      cases way with
      | nil => simp [eq_comm]
      | cons step rest =>
          rw [at?_cons, Option.bind_eq_some_iff]
          constructor
          · rintro (⟨hnil, -⟩ | ⟨child, hchild, found, hfound, heq, rfl⟩)
            · exact nomatch hnil
            · obtain ⟨rfl, rfl⟩ := List.cons.inj heq
              exact ⟨child.2, (mem_children_iff hkeys).mp hchild,
                (ih child hchild (keysDistinct_of_mem_children hkeys hchild)).mp hfound⟩
          · rintro ⟨child, hchild, hrest⟩
            have hmem : (step, child) ∈ value.children := (mem_children_iff hkeys).mpr hchild
            have hfound : (rest, inner) ∈ child.descendants :=
              (ih _ hmem (keysDistinct_of_child? hkeys hchild)).mpr hrest
            exact .inr ⟨_, hmem, _, hfound, rfl, rfl⟩

/-! ## What holds throughout a value -/

/-- A property of a value and of everything inside it. -/
def Throughout (holds : Json → Prop) (value : Json) : Prop :=
  ∀ node ∈ value.descendants, holds node.2

theorem throughout_iff {holds : Json → Prop} :
    Throughout holds value ↔
      holds value ∧ ∀ node ∈ value.children, Throughout holds node.2 := by
  unfold Throughout
  rw [descendants_eq, List.forall_mem_cons]
  refine and_congr_right fun _ => ⟨fun hall node hnode found hfound => ?_,
    fun hall found hfound => ?_⟩
  · exact hall (node.1 :: found.1, found.2)
      (List.mem_flatMap.mpr ⟨node, hnode, List.mem_map.mpr ⟨found, hfound, rfl⟩⟩)
  · obtain ⟨node, hnode, hfound⟩ := List.mem_flatMap.mp hfound
    obtain ⟨inner, hinner, rfl⟩ := List.mem_map.mp hfound
    exact hall node hnode inner hinner

end Json

end HttpScript
