import HttpScript.Table

/-!
# What a table holds

Entering pairs one after the other leaves, under every name, the last value that was entered for it,
or else what the table held before.  Every name is in a table once, and a table with every name once
is what arises from entering its own pairs.
-/

namespace HttpScript.Table

variable {α : Type}

theorem mem_of_get? {table : Table α} {name : Text} {value : α}
    (hget : get? table name = some value) : (name, value) ∈ table := by
  induction table with
  | nil => exact nomatch hget
  | cons entry rest ih =>
      obtain ⟨key, first⟩ := entry
      rw [get?] at hget
      split at hget
      · next hkey =>
          rw [hkey, Option.some.inj hget]
          exact List.mem_cons_self
      · exact List.mem_cons_of_mem _ (ih hget)

theorem get?_eq_some_iff_mem {table : Table α} (hnodup : (names table).Nodup) {name : Text}
    {value : α} : get? table name = some value ↔ (name, value) ∈ table := by
  refine ⟨mem_of_get?, fun hmem => ?_⟩
  induction table with
  | nil => exact nomatch hmem
  | cons entry rest ih =>
      obtain ⟨key, first⟩ := entry
      obtain ⟨hkey, hrest⟩ := List.nodup_cons.mp hnodup
      rw [get?]
      rcases List.mem_cons.mp hmem with heq | hmem
      · obtain ⟨rfl, rfl⟩ := Prod.mk.inj heq
        exact if_pos rfl
      · have hne : key ≠ name := by
          rintro rfl
          exact hkey (List.mem_map.mpr ⟨_, hmem, rfl⟩)
        rw [if_neg hne]
        exact ih hrest hmem

theorem isSome_get?_iff {table : Table α} {name : Text} :
    (get? table name).isSome = true ↔ name ∈ names table := by
  induction table with
  | nil => simp [get?, names]
  | cons entry rest ih =>
      obtain ⟨key, first⟩ := entry
      have hnames : names ((key, first) :: rest) = key :: names rest := rfl
      rw [get?, hnames, List.mem_cons, ← ih]
      split
      · next hkey => simp [hkey]
      · next hkey => simp [Ne.symm hkey]

theorem get?_eq_none_iff {table : Table α} {name : Text} :
    get? table name = none ↔ name ∉ names table := by
  rw [← isSome_get?_iff, Option.not_isSome_iff_eq_none]

/-- Entering the value that a name has already changes nothing. -/
theorem set_of_get? {table : Table α} {name : Text} {value : α}
    (hget : get? table name = some value) : set table name value = table := by
  induction table with
  | nil => cases hget
  | cons entry rest ih =>
      obtain ⟨key, first⟩ := entry
      rw [get?] at hget
      rw [set]
      split at hget
      · next hkey => rw [if_pos hkey, Option.some.inj hget]
      · next hkey => rw [if_neg hkey, ih hget]

theorem setAll_append (table : Table α) (first second : List (Text × α)) :
    setAll table (first ++ second) = setAll (setAll table first) second :=
  List.foldl_append

theorem get?_setAll (table : Table α) (entries : List (Text × α)) (name : Text) :
    get? (setAll table entries) name =
      (get? (ofEntries entries) name).or (get? table name) := by
  induction entries generalizing table with
  | nil => rfl
  | cons entry rest ih =>
      obtain ⟨key, value⟩ := entry
      have hcons (start : Table α) :
          setAll start ((key, value) :: rest) = setAll (set start key value) rest := rfl
      rw [hcons, ofEntries, hcons, ih (set table key value), ih (set [] key value), get?_set,
        get?_set, Option.or_assoc]
      congr 1
      split <;> rfl

/-- What was entered last under a name stands there. -/
theorem get?_setAll_eq_getLast? (table : Table α) (entries : List (Text × α)) (name : Text) :
    get? (setAll table entries) name =
      (entries.filterMap fun entry => if entry.1 = name then some entry.2 else none).getLast?.or
        (get? table name) := by
  induction entries generalizing table with
  | nil => rfl
  | cons entry rest ih =>
      obtain ⟨key, value⟩ := entry
      have hcons : setAll table ((key, value) :: rest) = setAll (set table key value) rest := rfl
      rw [hcons, ih, get?_set]
      by_cases hkey : key = name
      · simp only [hkey, if_true, List.filterMap_cons, List.getLast?_cons]
        cases (rest.filterMap fun entry => if entry.1 = name then some entry.2 else none).getLast? <;>
          rfl
      · simp only [hkey, if_false, List.filterMap_cons]

theorem get?_ofEntries_append (first second : List (Text × α)) (name : Text) :
    get? (ofEntries (first ++ second)) name =
      (get? (ofEntries second) name).or (get? (ofEntries first) name) := by
  rw [ofEntries, setAll_append, get?_setAll]
  rfl

/-! ## Every name once -/

theorem mem_of_mem_set {table : Table α} {name : Text} {value : α} {entry : Text × α}
    (hmem : entry ∈ set table name value) : entry ∈ table ∨ entry = (name, value) := by
  induction table with
  | nil => exact .inr (List.mem_singleton.mp hmem)
  | cons first rest ih =>
      obtain ⟨key, old⟩ := first
      rw [set] at hmem
      split at hmem
      · next hkey =>
          rcases List.mem_cons.mp hmem with heq | hmem
          · exact .inr (hkey ▸ heq)
          · exact .inl (List.mem_cons_of_mem _ hmem)
      · rcases List.mem_cons.mp hmem with heq | hmem
        · exact .inl (heq ▸ List.mem_cons_self)
        · exact (ih hmem).imp_left (List.mem_cons_of_mem _)

theorem mem_of_mem_setAll {table : Table α} {entries : List (Text × α)} {entry : Text × α}
    (hmem : entry ∈ setAll table entries) : entry ∈ table ∨ entry ∈ entries := by
  induction entries generalizing table with
  | nil => exact .inl hmem
  | cons first rest ih =>
      rcases ih (show entry ∈ setAll (set table first.1 first.2) rest from hmem) with hset | hrest
      · rcases mem_of_mem_set hset with htable | rfl
        · exact .inl htable
        · exact .inr List.mem_cons_self
      · exact .inr (List.mem_cons_of_mem first hrest)

theorem mem_names_set {table : Table α} {name other : Text} {value : α}
    (hmem : other ∈ names (set table name value)) : other ∈ names table ∨ other = name := by
  obtain ⟨entry, hentry, rfl⟩ := List.mem_map.mp hmem
  rcases mem_of_mem_set hentry with hentry | heq
  · exact .inl (List.mem_map_of_mem hentry)
  · exact .inr (congrArg Prod.fst heq)

theorem nodup_names_set {table : Table α} (hnodup : (names table).Nodup) (name : Text)
    (value : α) : (names (set table name value)).Nodup := by
  induction table with
  | nil => simp [set, names]
  | cons first rest ih =>
      obtain ⟨key, old⟩ := first
      obtain ⟨hkey, hrest⟩ := List.nodup_cons.mp hnodup
      rw [set]
      split
      · exact hnodup
      · next hne =>
          refine List.nodup_cons.mpr ⟨fun hmem => ?_, ih hrest⟩
          rcases mem_names_set hmem with hmem | heq
          · exact hkey hmem
          · exact hne heq

theorem set_append_of_notMem {table : Table α} {name : Text} (hname : name ∉ names table)
    (value : α) : set table name value = table ++ [(name, value)] := by
  induction table with
  | nil => rfl
  | cons first rest ih =>
      obtain ⟨key, old⟩ := first
      have hne : key ≠ name := fun heq => hname (heq ▸ List.mem_cons_self)
      rw [set, if_neg hne, ih fun hmem => hname (List.mem_cons_of_mem key hmem)]
      rfl

theorem names_set_of_mem {table : Table α} {name : Text} (hname : name ∈ names table) (value : α) :
    names (set table name value) = names table := by
  induction table with
  | nil => cases hname
  | cons first rest ih =>
      obtain ⟨key, old⟩ := first
      rw [set]
      split
      · rfl
      · next hne =>
          have hrest : name ∈ names rest := (List.mem_cons.mp hname).resolve_left (Ne.symm hne)
          exact congrArg (key :: ·) (ih hrest)

theorem setAll_eq_append {table entries : Table α}
    (hnodup : (names (table ++ entries)).Nodup) : setAll table entries = table ++ entries := by
  induction entries generalizing table with
  | nil => exact (List.append_nil table).symm
  | cons entry rest ih =>
      obtain ⟨name, value⟩ := entry
      have hname : name ∉ names table := by
        intro hmem
        rw [names, List.map_append] at hnodup
        exact (List.nodup_append.mp hnodup).2.2 name hmem name List.mem_cons_self rfl
      have hassoc : table ++ (name, value) :: rest = table ++ [(name, value)] ++ rest :=
        List.append_cons table _ rest
      rw [hassoc] at hnodup ⊢
      rw [← ih hnodup, ← set_append_of_notMem hname value]
      rfl

/-- Tables with the same names in the same order are equal if each name has the same value. -/
theorem eq_of_get? {table other : Table α} (hnodup : (names table).Nodup)
    (hnames : names table = names other) (hget : ∀ name, get? table name = get? other name) :
    table = other := by
  induction table generalizing other with
  | nil => exact (List.map_eq_nil_iff.mp hnames.symm).symm
  | cons entry rest ih =>
      obtain ⟨key, value⟩ := entry
      obtain ⟨hkey, hrest⟩ := List.nodup_cons.mp hnodup
      obtain ⟨⟨key', value'⟩, others, rfl, heq, hothers⟩ := List.map_eq_cons_iff.mp hnames.symm
      obtain rfl : key' = key := heq
      obtain rfl : value = value' := by
        have hfirst := hget key'
        rw [get?, get?, if_pos rfl, if_pos rfl] at hfirst
        exact Option.some.inj hfirst
      refine congrArg ((key', value) :: ·) (ih hrest hothers.symm fun name => ?_)
      by_cases hname : key' = name
      · subst hname
        have hnames : names others = names rest := hothers
        rw [get?_eq_none_iff.mpr hkey, get?_eq_none_iff.mpr (hnames ▸ hkey)]
      · have hlater := hget name
        rwa [get?, get?, if_neg hname, if_neg hname] at hlater

theorem names_prefix_set (table : Table α) (name : Text) (value : α) :
    names table <+: names (set table name value) := by
  induction table with
  | nil => exact List.nil_prefix
  | cons first rest ih =>
      obtain ⟨key, old⟩ := first
      rw [set]
      split
      · exact List.prefix_refl _
      · exact List.cons_prefix_cons.mpr ⟨rfl, ih⟩

/-- Entering pairs removes no name: new names come behind the others. -/
theorem names_prefix_setAll (table : Table α) (entries : List (Text × α)) :
    names table <+: names (setAll table entries) := by
  induction entries generalizing table with
  | nil => exact List.prefix_refl _
  | cons entry rest ih => exact (names_prefix_set table entry.1 entry.2).trans (ih _)

end HttpScript.Table
