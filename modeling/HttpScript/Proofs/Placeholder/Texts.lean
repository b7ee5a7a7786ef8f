import HttpScript.Placeholder.Expansion
import HttpScript.Proofs.Table

/-!
# The texts that placeholders lead to

A query selects values inside an outcome, so every string that it finds is one of the strings of the
outcome.  With the values of the variables and of the environment these are the texts of the scope,
and no placeholder leads to any other text.
-/

namespace HttpScript

/-! ## Strings inside a value -/

namespace Json

theorem texts_subset_itemTexts {items : List Json} {item : Json} (hitem : item ∈ items) :
    item.texts ⊆ itemTexts items := by
  induction items with
  | nil => exact nomatch hitem
  | cons first rest ih =>
      rw [itemTexts]
      rcases List.mem_cons.mp hitem with rfl | hitem
      · exact List.subset_append_left _ _
      · exact List.Subset.trans (ih hitem) (List.subset_append_right _ _)

theorem texts_subset_fieldTexts {fields : List (Text × Json)} {field : Text × Json}
    (hfield : field ∈ fields) : field.2.texts ⊆ fieldTexts fields := by
  induction fields with
  | nil => exact nomatch hfield
  | cons first rest ih =>
      rw [fieldTexts]
      rcases List.mem_cons.mp hfield with rfl | hfield
      · exact List.subset_append_left _ _
      · exact List.Subset.trans (ih hfield) (List.subset_append_right _ _)

theorem texts_subset_of_list {items : List Json} {item : Json} (hitem : item ∈ items) :
    item.texts ⊆ (Json.list items).texts := by
  rw [texts]
  exact texts_subset_itemTexts hitem

theorem texts_subset_of_object {fields : List (Text × Json)} {field : Text × Json}
    (hfield : field ∈ fields) : field.2.texts ⊆ (Json.object fields).texts := by
  rw [texts]
  exact texts_subset_fieldTexts hfield

theorem mem_of_mem_numbered {start : Nat} {items : List Json} {node : Step × Json}
    (hnode : node ∈ numbered start items) : node.2 ∈ items := by
  induction items generalizing start with
  | nil => exact nomatch hnode
  | cons item rest ih =>
      rcases List.mem_cons.mp hnode with rfl | hnode
      · exact List.mem_cons_self
      · exact List.mem_cons_of_mem item (ih hnode)

theorem texts_child {value child : Json} {step : Step} (hchild : value.child? step = some child) :
    child.texts ⊆ value.texts := by
  unfold child? at hchild
  split at hchild
  · exact texts_subset_of_object (Table.mem_of_get? hchild)
  · exact texts_subset_of_list (List.mem_of_getElem? hchild)
  · exact nomatch hchild

theorem texts_children {value : Json} {node : Step × Json} (hnode : node ∈ value.children) :
    node.2.texts ⊆ value.texts := by
  unfold children at hnode
  split at hnode
  · obtain ⟨field, hfield, rfl⟩ := List.mem_map.mp hnode
    exact texts_subset_of_object hfield
  · exact texts_subset_of_list (mem_of_mem_numbered hnode)
  · exact nomatch hnode

mutual

theorem texts_descendants (value : Json) :
    ∀ node ∈ value.descendants, node.2.texts ⊆ value.texts := by
  intro node hnode
  match value with
  | .list items =>
      rw [descendants] at hnode
      rcases List.mem_cons.mp hnode with rfl | hnode
      · exact List.Subset.refl _
      · rw [texts]
        exact texts_itemDescendants 0 items node hnode
  | .object fields =>
      rw [descendants] at hnode
      rcases List.mem_cons.mp hnode with rfl | hnode
      · exact List.Subset.refl _
      · rw [texts]
        exact texts_fieldDescendants fields node hnode
  | .null | .bool _ | .int _ | .float _ | .str _ =>
      rw [List.mem_singleton.mp hnode]
      exact List.Subset.refl _

theorem texts_itemDescendants (start : Nat) (items : List Json) :
    ∀ node ∈ itemDescendants start items, node.2.texts ⊆ itemTexts items := by
  intro node hnode
  match items with
  | [] => exact nomatch hnode
  | item :: rest =>
      rw [itemDescendants, List.mem_append] at hnode
      rw [itemTexts]
      rcases hnode with hnode | hnode
      · obtain ⟨found, hfound, rfl⟩ := List.mem_map.mp hnode
        exact List.Subset.trans (texts_descendants item found hfound)
          (List.subset_append_left _ _)
      · exact List.Subset.trans (texts_itemDescendants _ rest node hnode)
          (List.subset_append_right _ _)

theorem texts_fieldDescendants (fields : List (Text × Json)) :
    ∀ node ∈ fieldDescendants fields, node.2.texts ⊆ fieldTexts fields := by
  intro node hnode
  match fields with
  | [] => exact nomatch hnode
  | (name, value) :: rest =>
      rw [fieldDescendants, List.mem_append] at hnode
      rw [fieldTexts]
      rcases hnode with hnode | hnode
      · obtain ⟨found, hfound, rfl⟩ := List.mem_map.mp hnode
        exact List.Subset.trans (texts_descendants value found hfound)
          (List.subset_append_left _ _)
      · exact List.Subset.trans (texts_fieldDescendants rest node hnode)
          (List.subset_append_right _ _)

end

end Json

/-! ## What a query selects -/

namespace Query

theorem texts_childNodes {value : Json} {step : Step} {node : Node}
    (hnode : node ∈ value.childNodes step) : node.2.texts ⊆ value.texts := by
  unfold Json.childNodes at hnode
  split at hnode
  · next child hchild =>
      rw [List.mem_singleton.mp hnode]
      exact Json.texts_child hchild
  · exact nomatch hnode

theorem texts_step {segment : Segment} {value : Json} {node : Node}
    (hnode : node ∈ step segment value) : node.2.texts ⊆ value.texts := by
  unfold step at hnode
  split at hnode
  · exact Json.texts_descendants value node hnode
  · obtain ⟨child, hchild, rfl⟩ := List.mem_map.mp hnode
    exact Json.texts_children hchild
  · next start stop items =>
      obtain ⟨child, hchild, rfl⟩ := List.mem_map.mp hnode
      have hitem := List.mem_of_mem_take (List.mem_of_mem_drop (Json.mem_of_mem_numbered hchild))
      exact Json.texts_subset_of_list hitem
  · exact nomatch hnode
  · obtain ⟨-, hnode⟩ := List.mem_ite_nil_left.mp hnode
    exact texts_childNodes hnode
  · exact texts_childNodes hnode
  · exact texts_childNodes hnode

theorem texts_select {segments : List Segment} {value : Json} {node : Node}
    (hnode : node ∈ select segments value) : node.2.texts ⊆ value.texts := by
  induction segments generalizing value node with
  | nil =>
      rw [List.mem_singleton.mp hnode]
      exact List.Subset.refl _
  | cons segment rest ih =>
      obtain ⟨first, hfirst, hnode⟩ := List.mem_flatMap.mp hnode
      obtain ⟨found, hfound, rfl⟩ := List.mem_map.mp hnode
      have hinner : found.2.texts ⊆ first.2.texts := ih hfound
      exact List.Subset.trans hinner (texts_step hfirst)

/-- A string that a query finds is one of the strings of the value. -/
theorem mem_texts_of_single {segments : List Segment} {value : Json} {text : Text}
    (hsingle : single (values segments value) = .str text) : text ∈ value.texts := by
  unfold single at hsingle
  split at hsingle
  · exact nomatch hsingle
  · next found hfound =>
      have hmem : found ∈ values segments value := by
        rw [hfound]
        exact List.mem_singleton_self found
      obtain ⟨node, hnode, rfl⟩ := List.mem_map.mp hmem
      apply texts_select hnode
      rw [hsingle, Json.texts]
      exact List.mem_singleton_self text
  · exact nomatch hsingle

end Query

/-! ## What a placeholder leads to -/

namespace Scope

variable {scope : Scope} {identifier value : Text}

theorem value_eq_of_toValue {declared : Variable} (hvalue : declared.toValue = .str value) :
    declared.value = some value := by
  unfold Variable.toValue at hvalue
  cases hdeclared : declared.value with
  | none => rw [hdeclared] at hvalue; exact nomatch hvalue
  | some text =>
      rw [hdeclared] at hvalue
      exact congrArg some (Json.str.inj hvalue)

theorem mem_texts_of_local {declared : Variable}
    (hget : Table.get? scope.locals identifier = some declared)
    (hvalue : declared.toValue = .str value) : value ∈ scope.texts := by
  have hmem : value ∈ scope.locals.filterMap fun entry => entry.2.value :=
    List.mem_filterMap.mpr ⟨_, Table.mem_of_get? hget, value_eq_of_toValue hvalue⟩
  simp [texts, hmem]

theorem mem_texts_of_global {declared : Variable}
    (hget : Table.get? scope.globals identifier = some declared)
    (hvalue : declared.toValue = .str value) : value ∈ scope.texts := by
  have hmem : value ∈ scope.globals.filterMap fun entry => entry.2.value :=
    List.mem_filterMap.mpr ⟨_, Table.mem_of_get? hget, value_eq_of_toValue hvalue⟩
  rw [texts, List.mem_append, List.mem_append, List.mem_append]
  exact .inl (.inl (.inr hmem))

theorem mem_texts_of_env (hget : Table.get? scope.env identifier = some value) :
    value ∈ scope.texts := by
  have hmem : value ∈ scope.env.map Prod.snd :=
    List.mem_map_of_mem (Table.mem_of_get? hget)
  rw [texts, List.mem_append, List.mem_append]
  exact .inl (.inr hmem)

theorem mem_texts_of_outcome {outcome : Json} {path : Text}
    (hpath : scope.outcomePath? identifier = some (outcome, path))
    (hvalue : outcomeValue outcome path = .ok (.str value)) : value ∈ scope.texts := by
  obtain ⟨⟨name, rest⟩, -, hfound⟩ := Option.bind_eq_some_iff.mp hpath
  obtain ⟨found, hget, heq⟩ := Option.bind_eq_some_iff.mp hfound
  obtain ⟨rfl, rfl⟩ := Prod.mk.inj (Option.some.inj heq)
  have hstring : value ∈ found.texts := by
    unfold outcomeValue at hvalue
    split at hvalue
    · exact Query.mem_texts_of_single (Except.ok.inj hvalue)
    · exact nomatch hvalue
  rw [texts, List.mem_append]
  exact .inr (List.mem_flatMap.mpr ⟨_, Table.mem_of_get? hget, hstring⟩)

theorem mem_texts_of_lookupGlobal {missing : Text → Problem} {isGlobal : Bool}
    (hlookup : scope.lookupGlobal missing identifier = .ok (.str value, isGlobal)) :
    value ∈ scope.texts := by
  unfold lookupGlobal at hlookup
  split at hlookup
  · next declared hget =>
      exact mem_texts_of_global hget (Prod.mk.inj (Except.ok.inj hlookup)).1
  · split at hlookup
    · next text hget =>
        have hvalue := (Prod.mk.inj (Except.ok.inj hlookup)).1
        exact mem_texts_of_env (Json.str.inj hvalue ▸ hget)
    · exact nomatch hlookup

theorem mem_texts_of_lookup {inGlobal isGlobal : Bool}
    (hlookup : scope.lookup inGlobal identifier = .ok (.str value, isGlobal)) :
    value ∈ scope.texts := by
  unfold lookup at hlookup
  split at hlookup
  · next outcome path hpath =>
      cases hvalue : outcomeValue outcome path with
      | error fault => rw [hvalue] at hlookup; exact nomatch hlookup
      | ok found =>
          rw [hvalue] at hlookup
          rw [(Prod.mk.inj (Except.ok.inj hlookup)).1] at hvalue
          exact mem_texts_of_outcome hpath hvalue
  · split at hlookup
    · exact mem_texts_of_lookupGlobal hlookup
    · split at hlookup
      · next declared hget =>
          exact mem_texts_of_local hget (Prod.mk.inj (Except.ok.inj hlookup)).1
      · exact mem_texts_of_lookupGlobal hlookup

/-- A placeholder that is no call leads to a text if a string is found for it. -/
theorem lead_eq_text_iff {inGlobal isGlobal : Bool} :
    scope.lead inGlobal identifier = .text isGlobal value ↔
      isCall identifier = false ∧
        scope.lookup inGlobal identifier = .ok (.str value, isGlobal) := by
  constructor
  · intro hlead
    unfold lead at hlead
    split at hlead
    · exact nomatch hlead
    · next hcall =>
        refine ⟨Bool.not_eq_true _ ▸ hcall, ?_⟩
        split at hlead
        · exact nomatch hlead
        · next found global hlookup =>
            obtain ⟨rfl, rfl⟩ := Lead.text.inj hlead
            exact hlookup
        · exact nomatch hlead
  · rintro ⟨hcall, hlookup⟩
    rw [lead, hcall, hlookup]
    rfl

/-- No placeholder leads to a text that is not in the scope. -/
theorem mem_texts_of_lead {inGlobal isGlobal : Bool}
    (hlead : scope.lead inGlobal identifier = .text isGlobal value) : value ∈ scope.texts :=
  mem_texts_of_lookup (lead_eq_text_iff.mp hlead).2

theorem lookupGlobal_eq_ok {missing : Text → Problem} {found : Json × Bool}
    (hlookup : scope.lookupGlobal missing identifier = .ok found) :
    found.2 = true ∧ ∀ other, scope.lookupGlobal other identifier = .ok found := by
  unfold lookupGlobal at hlookup ⊢
  split at hlookup
  · rw [← Except.ok.inj hlookup]
    exact ⟨rfl, fun _ => rfl⟩
  · split at hlookup
    · rw [← Except.ok.inj hlookup]
      exact ⟨rfl, fun _ => rfl⟩
    · exact nomatch hlookup

/-- Below a text that sees global values only no text sees more. -/
theorem isGlobal_of_lead {isGlobal : Bool}
    (hlead : scope.lead true identifier = .text isGlobal value) :
    isGlobal = true := by
  have hlookup := (lead_eq_text_iff.mp hlead).2
  unfold lookup at hlookup
  split at hlookup
  · next outcome path _ =>
      cases hvalue : outcomeValue outcome path with
      | error fault => rw [hvalue] at hlookup; exact nomatch hlookup
      | ok found =>
          rw [hvalue] at hlookup
          exact (Prod.mk.inj (Except.ok.inj hlookup)).2.symm
  · rw [if_pos rfl] at hlookup
    exact (lookupGlobal_eq_ok hlookup).1

end Scope

end HttpScript
