import HttpScript.Json.Merge
import HttpScript.Proofs.Query.Locations

/-!
# Laws of merging

What one object laid over another comes to is known for every name: the upper value is laid over the
lower one, or one of the two is missing and the other stands there alone (`get?_mergeFields`).  With
the order of the names (`names_mergeFields`) that is all there is to know of the fields, and the
laws follow from it by induction over the upper value.

Laying the same object over the result again changes nothing, and so does laying an object over
itself.  Three objects can be merged in either order as long as no object of the upper one meets a
value of the middle one that is none (`MeetsObjects`).  Such a value hides what the lower object has
there, and would not hide it if the upper object had taken its place before.
-/

namespace HttpScript

namespace Json

/-- Whether a value is an object. -/
def isObject : Json → Bool
  | .object _ => true
  | _ => false

/-- The fields with which an object is merged that is laid here: none if no object was here. -/
def fieldsBelow : Option Json → List (Text × Json)
  | some (.object fields) => fields
  | _ => []

@[simp] theorem fieldsBelow_object (fields : List (Text × Json)) :
    fieldsBelow (some (.object fields)) = fields := rfl

/-- A location that steps through keys only. -/
def keyPath (names : List Text) : Location :=
  names.map .key

theorem at?_keyPath_cons (entries : List (Text × Json)) (name : Text) (names : List Text) :
    (object entries).at? (keyPath (name :: names)) =
      (Table.get? entries name).bind (·.at? (keyPath names)) := rfl

variable {fields others : List (Text × Json)} {lower : Option Json} {value middle upper : Json}

/-! ## The fields of merged objects -/

theorem mergeFields_cons (base : List (Text × Json)) (name : Text) (value : Json)
    (rest : List (Text × Json)) :
    mergeFields base ((name, value) :: rest) =
      mergeFields (Table.set base name (mergeOver (Table.get? base name) value)) rest := by
  rw [mergeFields]

theorem get?_mergeFields (base : List (Text × Json)) (hnodup : (Table.names fields).Nodup)
    (name : Text) :
    Table.get? (mergeFields base fields) name =
      ((Table.get? fields name).map (mergeOver (Table.get? base name))).or
        (Table.get? base name) := by
  induction fields generalizing base with
  | nil => rw [mergeFields]; rfl
  | cons field rest ih =>
      obtain ⟨key, value⟩ := field
      obtain ⟨hkey, hrest⟩ := List.nodup_cons.mp hnodup
      rw [mergeFields_cons, ih _ hrest, Table.get?_set, Table.get?]
      by_cases heq : key = name
      · subst heq
        -- no later field has this name
        rw [Table.get?_eq_none_iff.mpr hkey, if_pos rfl, if_pos rfl]
        rfl
      · rw [if_neg heq, if_neg heq]

/-- The names of the lower object come first, those that are new behind them. -/
theorem names_mergeFields (base : List (Text × Json)) (hnodup : (Table.names fields).Nodup) :
    Table.names (mergeFields base fields) =
      Table.names base ++ (Table.names fields).filter (· ∉ Table.names base) := by
  induction fields generalizing base with
  | nil => rw [mergeFields]; exact (List.append_nil _).symm
  | cons field rest ih =>
      obtain ⟨key, value⟩ := field
      obtain ⟨hkey, hrest⟩ := List.nodup_cons.mp hnodup
      have hnames : Table.names ((key, value) :: rest) = key :: Table.names rest := rfl
      rw [mergeFields_cons, ih _ hrest, hnames]
      by_cases hmem : key ∈ Table.names base
      · rw [Table.names_set_of_mem hmem, List.filter_cons_of_neg (by simpa using hmem)]
      · have hset (entered : Json) :
            Table.names (Table.set base key entered) = Table.names base ++ [key] := by
          rw [Table.set_append_of_notMem hmem, Table.names, List.map_append]
          rfl
        have hfilter : (Table.names rest).filter (· ∉ Table.names base ++ [key]) =
            (Table.names rest).filter (· ∉ Table.names base) := by
          refine List.filter_congr fun name hname => ?_
          have hne : name ≠ key := fun heq => hkey (heq ▸ hname)
          simp [hne]
        rw [hset, hfilter, List.filter_cons_of_pos (by simpa using hmem), List.append_assoc]
        rfl

theorem nodup_names_mergeFields {base : List (Text × Json)} (hbase : (Table.names base).Nodup)
    (hnodup : (Table.names fields).Nodup) :
    (Table.names (mergeFields base fields)).Nodup := by
  rw [names_mergeFields base hnodup]
  refine List.nodup_append.mpr ⟨hbase, hnodup.filter _, ?_⟩
  rintro name hmem _ hnew rfl
  rw [List.mem_filter, decide_eq_true_eq] at hnew
  exact hnew.2 hmem

/-! ## One value over another -/

theorem mergeOver_of_isObject_eq_false (lower : Option Json) (hvalue : value.isObject = false) :
    mergeOver lower value = value := by
  cases value with
  | object fields => cases hvalue
  | _ => simp [mergeOver]

/-- Where no object is, a value is laid down as it is. -/
theorem mergeOver_of_below (hlower : ∀ below ∈ lower, below.isObject = false) (value : Json) :
    mergeOver lower value = value := by
  cases value with
  | object fields =>
      cases lower with
      | none => simp [mergeOver]
      | some below =>
          have hbelow : below.isObject = false := hlower below rfl
          cases below with
          | object base => cases hbelow
          | _ => simp [mergeOver]
  | _ => simp [mergeOver]

theorem mergeOver_none (value : Json) : mergeOver none value = value :=
  mergeOver_of_below (fun below hbelow => by cases hbelow) value

theorem mergeFields_nil (hnodup : (Table.names fields).Nodup) : mergeFields [] fields = fields := by
  have hnames : Table.names (mergeFields [] fields) = Table.names fields := by
    rw [names_mergeFields [] hnodup]
    simp [Table.names]
  refine Table.eq_of_get? (hnames ▸ hnodup) hnames fun name => ?_
  rw [get?_mergeFields [] hnodup]
  cases hvalue : Table.get? fields name with
  | none => rfl
  | some value => exact congrArg some (mergeOver_none value)

theorem mergeOver_object (lower : Option Json) (hnodup : (Table.names fields).Nodup) :
    mergeOver lower (.object fields) = .object (mergeFields (fieldsBelow lower) fields) := by
  cases lower with
  | none => simp [mergeOver, fieldsBelow, mergeFields_nil hnodup]
  | some below =>
      cases below with
      | object base => simp [mergeOver, fieldsBelow]
      | _ => simp [mergeOver, fieldsBelow, mergeFields_nil hnodup]

/-- The entry of one name after merging. -/
theorem child?_mergeOver (lower : Option Json) (hnodup : (Table.names fields).Nodup) (name : Text) :
    (mergeOver lower (.object fields)).child? (.key name) =
      ((Table.get? fields name).map (mergeOver (Table.get? (fieldsBelow lower) name))).or
        (Table.get? (fieldsBelow lower) name) := by
  rw [mergeOver_object lower hnodup]
  exact get?_mergeFields _ hnodup name

theorem nodup_names_of_keysDistinct (hkeys : (object fields).KeysDistinct) :
    (Table.names fields).Nodup := by
  rw [KeysDistinct] at hkeys
  exact hkeys.1

theorem keysDistinct_of_get? (hkeys : (object fields).KeysDistinct) {name : Text}
    (hvalue : Table.get? fields name = some value) : value.KeysDistinct := by
  have hchild : (object fields).child? (.key name) = some value := hvalue
  exact keysDistinct_of_child? hkeys hchild

theorem keysDistinct_fieldsBelow (hlower : ∀ below ∈ lower, below.KeysDistinct) :
    (object (fieldsBelow lower)).KeysDistinct := by
  cases lower with
  | none => simp [fieldsBelow, KeysDistinct, fieldsKeysDistinct]
  | some below =>
      cases below with
      | object base => exact hlower _ rfl
      | _ => simp [fieldsBelow, KeysDistinct, fieldsKeysDistinct]

/-! ## Laying the same over it again -/

/-- An object over which every field was laid already stays as it is. -/
theorem mergeFields_eq_self
    (hfields : ∀ field ∈ fields, ∃ value, Table.get? others field.1 = some value ∧
      mergeOver (some value) field.2 = value) :
    mergeFields others fields = others := by
  induction fields with
  | nil => rw [mergeFields]
  | cons field rest ih =>
      obtain ⟨key, value⟩ := field
      obtain ⟨found, hfound, hsame⟩ := hfields (key, value) List.mem_cons_self
      rw [mergeFields_cons, hfound, hsame, Table.set_of_get? hfound]
      exact ih fun field hfield => hfields field (List.mem_cons_of_mem _ hfield)

theorem mergeOver_mergeOver (hvalue : value.KeysDistinct) (lower : Option Json) :
    mergeOver (some (mergeOver lower value)) value = mergeOver lower value := by
  induction value using children_induction generalizing lower with
  | node value ih =>
      cases value with
      | object fields =>
          have hnodup := nodup_names_of_keysDistinct hvalue
          rw [mergeOver_object _ hnodup, mergeOver_object _ hnodup]
          refine congrArg object (mergeFields_eq_self fun field hfield => ?_)
          obtain ⟨name, inner⟩ := field
          have hinner := (Table.get?_eq_some_iff_mem hnodup).mpr hfield
          refine ⟨_, ?_, ih (.key name, inner) (mem_children_of_get? hinner)
            (keysDistinct_of_get? hvalue hinner) (Table.get? (fieldsBelow lower) name)⟩
          rw [fieldsBelow, get?_mergeFields _ hnodup, hinner]
          rfl
      | _ => rw [mergeOver_of_isObject_eq_false _ rfl, mergeOver_of_isObject_eq_false _ rfl]

theorem mergeFields_mergeFields (base : List (Text × Json))
    (hfields : (object fields).KeysDistinct) :
    mergeFields (mergeFields base fields) fields = mergeFields base fields := by
  have hnodup := nodup_names_of_keysDistinct hfields
  have hagain := mergeOver_mergeOver hfields (some (.object base))
  rw [mergeOver_object _ hnodup, mergeOver_object _ hnodup] at hagain
  exact object.inj hagain

theorem mergeFields_self (hfields : (object fields).KeysDistinct) :
    mergeFields fields fields = fields := by
  have hagain := mergeFields_mergeFields [] hfields
  rwa [mergeFields_nil (nodup_names_of_keysDistinct hfields)] at hagain

/-! ## Three objects -/

/-- Wherever the upper value has an object, the middle one has an object or nothing. -/
def MeetsObjects (middle upper : Json) : Prop :=
  ∀ (names : List Text) (inner laid : Json), middle.at? (keyPath names) = some inner →
    upper.at? (keyPath names) = some laid → laid.isObject = true → inner.isObject = true

theorem MeetsObjects.field {inner laid : Json}
    (hmeets : MeetsObjects (.object others) (.object fields)) {name : Text}
    (hinner : Table.get? others name = some inner) (hlaid : Table.get? fields name = some laid) :
    MeetsObjects inner laid := by
  intro names below above hbelow habove
  apply hmeets (name :: names) below above
  · rw [at?_keyPath_cons, hinner]
    exact hbelow
  · rw [at?_keyPath_cons, hlaid]
    exact habove

theorem names_mergeFields_assoc {base : List (Text × Json)} (hothers : (Table.names others).Nodup)
    (hfields : (Table.names fields).Nodup) :
    Table.names (mergeFields (mergeFields base others) fields) =
      Table.names (mergeFields base (mergeFields others fields)) := by
  have hnew (name : Text) :
      name ∉ Table.names base ++ (Table.names others).filter (· ∉ Table.names base) ↔
        name ∉ Table.names base ∧ name ∉ Table.names others := by
    simp only [List.mem_append, List.mem_filter, decide_eq_true_eq]
    tauto
  calc Table.names (mergeFields (mergeFields base others) fields)
      = Table.names base ++ (Table.names others).filter (· ∉ Table.names base) ++
          (Table.names fields).filter fun name =>
            name ∉ Table.names base ++ (Table.names others).filter (· ∉ Table.names base) := by
        rw [names_mergeFields _ hfields, names_mergeFields base hothers]
    _ = Table.names base ++
          (Table.names others ++ (Table.names fields).filter (· ∉ Table.names others)).filter
            (· ∉ Table.names base) := by
        rw [List.filter_append, List.filter_filter, List.append_assoc]
        simp only [hnew, Bool.decide_and]
    _ = Table.names (mergeFields base (mergeFields others fields)) := by
        rw [names_mergeFields base (nodup_names_mergeFields hothers hfields),
          names_mergeFields others hfields]

/-- Three objects can be merged in either order if this is so for the values of every name that the
two upper ones share. -/
theorem mergeFields_assoc_of_get? {base : List (Text × Json)} (hbase : (Table.names base).Nodup)
    (hothers : (Table.names others).Nodup) (hfields : (Table.names fields).Nodup)
    (hshared : ∀ name inner laid, Table.get? others name = some inner →
      Table.get? fields name = some laid →
        mergeOver (some (mergeOver (Table.get? base name) inner)) laid =
          mergeOver (Table.get? base name) (mergeOver (some inner) laid)) :
    mergeFields (mergeFields base others) fields =
      mergeFields base (mergeFields others fields) := by
  refine Table.eq_of_get? (nodup_names_mergeFields (nodup_names_mergeFields hbase hothers) hfields)
    (names_mergeFields_assoc hothers hfields) fun name => ?_
  rw [get?_mergeFields _ hfields, get?_mergeFields _ hothers,
    get?_mergeFields _ (nodup_names_mergeFields hothers hfields), get?_mergeFields _ hfields]
  cases hlaid : Table.get? fields name with
  | none => rfl
  | some laid =>
      cases hinner : Table.get? others name with
      | none => exact congrArg (fun above => some (mergeOver _ above)) (mergeOver_none laid).symm
      | some inner => exact congrArg some (hshared name inner laid hinner hlaid)

theorem mergeOver_assoc (hlower : ∀ below ∈ lower, below.KeysDistinct)
    (hmiddle : middle.KeysDistinct) (hupper : upper.KeysDistinct)
    (hmeets : MeetsObjects middle upper) :
    mergeOver (some (mergeOver lower middle)) upper =
      mergeOver lower (mergeOver (some middle) upper) := by
  induction upper using children_induction generalizing lower middle with
  | node upper ih =>
      cases upper with
      | object fields =>
          cases middle with
          | object others =>
              have hothers := nodup_names_of_keysDistinct hmiddle
              have hfields := nodup_names_of_keysDistinct hupper
              have hbase := keysDistinct_fieldsBelow hlower
              rw [mergeOver_object _ hothers, mergeOver_object _ hfields,
                mergeOver_object _ hfields, fieldsBelow_object, fieldsBelow_object,
                mergeOver_object _ (nodup_names_mergeFields hothers hfields)]
              refine congrArg object (mergeFields_assoc_of_get?
                (nodup_names_of_keysDistinct hbase) hothers hfields ?_)
              intro name inner laid hinner hlaid
              refine ih (.key name, laid) (mem_children_of_get? hlaid) ?_
                (keysDistinct_of_get? hmiddle hinner) (keysDistinct_of_get? hupper hlaid)
                (hmeets.field hinner hlaid)
              intro below hbelow
              exact keysDistinct_of_get? hbase hbelow
          | _ => cases hmeets [] _ _ rfl rfl rfl
      | _ =>
          -- the upper value stands there alone, whatever is below it
          rw [mergeOver_of_isObject_eq_false _ rfl, mergeOver_of_isObject_eq_false _ rfl,
            mergeOver_of_isObject_eq_false _ rfl]

/-! ## Every path of keys -/

/-- What a lower value has behind the key of an object that is laid over it. -/
theorem bind_at?_keyPath_cons (lower : Option Json) (name : Text) (names : List Text) :
    lower.bind (·.at? (keyPath (name :: names))) =
      (Table.get? (fieldsBelow lower) name).bind (·.at? (keyPath names)) := by
  cases lower with
  | none => rfl
  | some below => cases below <;> rfl

/-- Below the first key of a path, the value of that key is laid over what the lower value has
there. -/
theorem at?_mergeOver_cons (lower : Option Json) (hnodup : (Table.names fields).Nodup) (name : Text)
    (names : List Text) :
    (mergeOver lower (.object fields)).at? (keyPath (name :: names)) =
      match Table.get? fields name with
      | some laid =>
          (mergeOver (Table.get? (fieldsBelow lower) name) laid).at? (keyPath names)
      | none => lower.bind (·.at? (keyPath (name :: names))) := by
  rw [keyPath, List.map_cons, at?_cons, child?_mergeOver lower hnodup]
  cases Table.get? fields name with
  | some laid => rfl
  | none => exact (bind_at?_keyPath_cons lower name names).symm

theorem at?_mergeOver_of_upper (hupper : upper.KeysDistinct) {names : List Text}
    (hvalue : upper.at? (keyPath names) = some value)
    (hmeets : value.isObject = true →
      ∀ below ∈ lower.bind (·.at? (keyPath names)), below.isObject = false) :
    (mergeOver lower upper).at? (keyPath names) = some value := by
  induction names generalizing lower upper with
  | nil =>
      obtain rfl : upper = value := Option.some.inj hvalue
      refine congrArg some ?_
      cases hobject : upper.isObject with
      | false => exact mergeOver_of_isObject_eq_false lower hobject
      | true =>
          refine mergeOver_of_below (fun below hbelow => hmeets hobject below ?_) upper
          rw [hbelow]
          rfl
  | cons name rest ih =>
      cases upper with
      | object fields =>
          rw [at?_keyPath_cons, Option.bind_eq_some_iff] at hvalue
          obtain ⟨laid, hlaid, hvalue⟩ := hvalue
          rw [at?_mergeOver_cons lower (nodup_names_of_keysDistinct hupper), hlaid]
          rw [bind_at?_keyPath_cons] at hmeets
          exact ih (keysDistinct_of_get? hupper hlaid) hvalue hmeets
      | _ => cases hvalue

theorem at?_mergeOver_of_both (hupper : upper.KeysDistinct) {names : List Text}
    {base : List (Text × Json)}
    (hbase : lower.bind (·.at? (keyPath names)) = some (.object base))
    (hfields : upper.at? (keyPath names) = some (.object fields)) :
    (mergeOver lower upper).at? (keyPath names) = some (.object (mergeFields base fields)) := by
  induction names generalizing lower upper with
  | nil =>
      obtain rfl : upper = .object fields := Option.some.inj hfields
      obtain ⟨below, rfl, hbelow⟩ := Option.bind_eq_some_iff.mp hbase
      obtain rfl : below = .object base := Option.some.inj hbelow
      exact congrArg some (mergeOver_object _ (nodup_names_of_keysDistinct hupper))
  | cons name rest ih =>
      cases upper with
      | object others =>
          rw [at?_keyPath_cons, Option.bind_eq_some_iff] at hfields
          obtain ⟨laid, hlaid, hfields⟩ := hfields
          rw [at?_mergeOver_cons lower (nodup_names_of_keysDistinct hupper), hlaid]
          rw [bind_at?_keyPath_cons] at hbase
          exact ih (keysDistinct_of_get? hupper hlaid) hbase hfields
      | _ => cases hfields

theorem at?_mergeOver_of_lower (hupper : upper.KeysDistinct) {names : List Text}
    (hnone : upper.at? (keyPath names) = none)
    (hobjects : ∀ before, before <+: names →
      ∀ above ∈ upper.at? (keyPath before), above.isObject = true) :
    (mergeOver lower upper).at? (keyPath names) = lower.bind (·.at? (keyPath names)) := by
  induction names generalizing lower upper with
  | nil => cases hnone
  | cons name rest ih =>
      have hroot : upper.isObject = true := hobjects [] List.nil_prefix upper rfl
      cases upper with
      | object fields =>
          rw [at?_mergeOver_cons lower (nodup_names_of_keysDistinct hupper)]
          cases hlaid : Table.get? fields name with
          | none => rfl
          | some laid =>
              have hat (before : List Text) :
                  (object fields).at? (keyPath (name :: before)) = laid.at? (keyPath before) := by
                rw [at?_keyPath_cons, hlaid]
                rfl
              rw [bind_at?_keyPath_cons]
              refine ih (keysDistinct_of_get? hupper hlaid) ((hat rest).symm.trans hnone) ?_
              intro before hbefore above habove
              refine hobjects (name :: before) (List.cons_prefix_cons.mpr ⟨rfl, hbefore⟩) above ?_
              rw [hat]
              exact habove
      | _ => cases hroot

/-- What comes of two objects of which one is laid over the other, path by path. -/
structure IsLaidOver (lower upper merged : Json) : Prop where
  /-- An upper value stands as it is if it is no object, and also if it meets none. -/
  above : ∀ names value, upper.at? (keyPath names) = some value →
    (value.isObject = true → ∀ below ∈ lower.at? (keyPath names), below.isObject = false) →
    merged.at? (keyPath names) = some value
  /-- Where two objects meet, the keys of the lower one come first and the new ones behind them. -/
  both : ∀ names base fields, lower.at? (keyPath names) = some (.object base) →
    upper.at? (keyPath names) = some (.object fields) →
    ∃ entries, merged.at? (keyPath names) = some (.object entries) ∧
      Table.names entries =
        Table.names base ++ (Table.names fields).filter (· ∉ Table.names base)
  /-- Where the upper value has nothing and is an object all the way, the lower one shows. -/
  below : ∀ names, upper.at? (keyPath names) = none →
    (∀ before, before <+: names → ∀ value ∈ upper.at? (keyPath before), value.isObject = true) →
    merged.at? (keyPath names) = lower.at? (keyPath names)

theorem isLaidOver_mergeOver (lower : Json) (hupper : upper.KeysDistinct) :
    IsLaidOver lower upper (mergeOver (some lower) upper) where
  above _ _ hvalue hmeets := at?_mergeOver_of_upper hupper hvalue hmeets
  both _ _ _ hbase hfields := by
    have hinner := nodup_names_of_keysDistinct (keysDistinct_of_at? hupper hfields)
    exact ⟨_, at?_mergeOver_of_both hupper hbase hfields, names_mergeFields _ hinner⟩
  below _ hnone hobjects := at?_mergeOver_of_lower hupper hnone hobjects

/-- At every path of keys, the values that stand there are all objects, or none of them is one. -/
def AgreeInShape (values : List Json) : Prop :=
  ∀ names : List Text, ∃ shape, ∀ value ∈ values, ∀ inner ∈ value.at? (keyPath names),
    inner.isObject = shape

theorem AgreeInShape.meetsObjects {values : List Json} (hshape : AgreeInShape values)
    (hmiddle : middle ∈ values) (hupper : upper ∈ values) : MeetsObjects middle upper := by
  intro names inner laid hinner hlaid hobject
  obtain ⟨shape, hall⟩ := hshape names
  calc inner.isObject = shape := hall middle hmiddle inner hinner
    _ = laid.isObject := (hall upper hupper laid hlaid).symm
    _ = true := hobject

/-- It is enough to look at the values that there are. -/
theorem agreeInShape_of_descendants {values : List Json}
    (hkeys : ∀ value ∈ values, value.KeysDistinct)
    (hnodes : ∀ value ∈ values, ∀ other ∈ values, ∀ node ∈ value.descendants,
      ∀ found ∈ other.descendants, node.1 = found.1 → node.2.isObject = found.2.isObject) :
    AgreeInShape values := by
  intro names
  by_cases hsome : ∃ value ∈ values, ∃ inner ∈ value.at? (keyPath names), inner.isObject = true
  · obtain ⟨value, hvalue, inner, hinner, hobject⟩ := hsome
    refine ⟨true, fun other hother found hfound => ?_⟩
    have hnode : (keyPath names, inner) ∈ value.descendants :=
      (mem_descendants_iff (hkeys value hvalue)).mpr hinner
    have hlast : (keyPath names, found) ∈ other.descendants :=
      (mem_descendants_iff (hkeys other hother)).mpr hfound
    exact (hnodes value hvalue other hother _ hnode _ hlast rfl).symm.trans hobject
  · refine ⟨false, fun value hvalue inner hinner => ?_⟩
    rw [← Bool.not_eq_true]
    exact fun hobject => hsome ⟨value, hvalue, inner, hinner, hobject⟩

theorem mergeFields_assoc {base : List (Text × Json)} (hbase : (object base).KeysDistinct)
    (hothers : (object others).KeysDistinct) (hfields : (object fields).KeysDistinct)
    (hmeets : MeetsObjects (object others) (object fields)) :
    mergeFields (mergeFields base others) fields =
      mergeFields base (mergeFields others fields) := by
  have hlower : ∀ below ∈ some (object base), below.KeysDistinct :=
    fun below hbelow => Option.some.inj hbelow ▸ hbase
  simpa [mergeOver] using mergeOver_assoc hlower hothers hfields hmeets

/-- Path by path, merging takes what the upper object has and keeps what the lower one has beside
it, with the keys of the lower one in front.  To merge the upper object again changes nothing, and
neither does merging an object with itself.  Three objects that agree in shape can be merged in
either order. -/
theorem merge_laws {base fields : List (Text × Json)} (hbase : (object base).KeysDistinct)
    (hfields : (object fields).KeysDistinct) :
    IsLaidOver (.object base) (.object fields) (.object (mergeFields base fields)) ∧
    mergeFields (mergeFields base fields) fields = mergeFields base fields ∧
    mergeFields base base = base ∧
    ∀ further, (object further).KeysDistinct →
      AgreeInShape [.object base, .object fields, .object further] →
      mergeFields (mergeFields base fields) further =
        mergeFields base (mergeFields fields further) := by
  refine ⟨?_, mergeFields_mergeFields base hfields, mergeFields_self hbase, ?_⟩
  · have hlaid := isLaidOver_mergeOver (.object base) hfields
    rwa [mergeOver_object _ (nodup_names_of_keysDistinct hfields)] at hlaid
  · intro further hfurther hshape
    exact mergeFields_assoc hbase hfields hfurther (hshape.meetsObjects (by simp) (by simp))

/-- Settings of environments, one of which is known to the second object alone. -/
theorem merge_laws_environments :
    let base : List (Text × Json) :=
      [("dev", .object [("host", .str "a"), ("port", .int 80)]), ("test", .object [])]
    let fields : List (Text × Json) :=
      [("live", .object []), ("dev", .object [("user", .null), ("host", .str "b")])]
    let further : List (Text × Json) := [("dev", .object [("port", .int 81)])]
    let merged (port : Int) : List (Text × Json) :=
      [("dev", .object [("host", .str "b"), ("port", .int port), ("user", .null)]),
        ("test", .object []), ("live", .object [])]
    AgreeInShape [.object base, .object fields, .object further] ∧
      IsLaidOver (.object base) (.object fields) (.object (merged 80)) ∧
      mergeFields (merged 80) fields = merged 80 ∧
      mergeFields base (mergeFields fields further) = merged 81 := by
  intro base fields further merged
  have hbase : (object base).KeysDistinct := by simp [base, KeysDistinct, fieldsKeysDistinct]
  have hfields : (object fields).KeysDistinct := by simp [fields, KeysDistinct, fieldsKeysDistinct]
  have hfurther : (object further).KeysDistinct := by
    simp [further, KeysDistinct, fieldsKeysDistinct]
  have hshape : AgreeInShape [.object base, .object fields, .object further] := by
    refine agreeInShape_of_descendants ?_ (by decide)
    simp only [List.forall_mem_cons]
    exact ⟨hbase, hfields, hfurther, fun value hvalue => by cases hvalue⟩
  obtain ⟨hlaid, hagain, -, hassoc⟩ := merge_laws hbase hfields
  exact ⟨hshape, hlaid, hagain, (hassoc further hfurther hshape).symm⟩

example :
    let holding (name : Text) : List (Text × Json) := [("a", .object [(name, .null)])]
    let bare : List (Text × Json) := [("a", .null)]
    let both : List (Text × Json) := [("a", .object [("b", .null), ("c", .null)])]
    mergeFields (mergeFields (holding "b") bare) (holding "c") = holding "c" ∧
      mergeFields (holding "b") (mergeFields bare (holding "c")) = both :=
  ⟨rfl, rfl⟩

end Json

end HttpScript
