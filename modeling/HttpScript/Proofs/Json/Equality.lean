import HttpScript.Json.Equality
import HttpScript.Proofs.Query.Locations
import Mathlib.Algebra.Field.Rat
import Mathlib.Algebra.Order.Field.Rat
import Mathlib.Data.Rat.Cast.Lemmas
import Mathlib.Tactic.FieldSimp
import Mathlib.Tactic.NormNum

/-!
# What it means that values are equal

`SameValue` says which values are the same JSON, without comparing anything: a number stands for its
exact value, a list for its items by position, and an object for its fields by name.  A truth value
has no exact value, so it is no number.

The comparison decides this relation (`eqv_iff_sameValue`).  Each kind of value has a lemma that
says what it is equal to, and the whole follows by induction over the children of the first value.
Only there are distinct keys needed: of two fields with one name the comparison sees both and a
look-up sees the first.  That the relation is symmetric and transitive is read off its rules; it is
reflexive as far as every number has an exact value.
-/

namespace HttpScript

/-! ## Exact values -/

/-- The exact value of a number. -/
inductive ExactNumber
  | rational (value : ℚ)
  | infinity (negative : Bool)

namespace Double

/-- The exact value of a floating point number; what is not a number has none. -/
def value? : Double → Option ExactNumber
  | .nan => none
  | .infinity negative => some (.infinity negative)
  | .finite negative significand exponent =>
      some (.rational ((if negative then -1 else 1) * significand * 2 ^ exponent))

theorem exists_fraction (negative : Bool) (significand : Nat) (exponent : Int) :
    ∃ numerator denominator,
      (finite negative significand exponent).fraction? = some (numerator, denominator) ∧
      denominator ≠ 0 ∧
      (finite negative significand exponent).value? =
        some (.rational (numerator / denominator)) := by
  cases exponent with
  | ofNat up =>
      refine ⟨_, _, rfl, Nat.one_ne_zero, ?_⟩
      rw [value?, Int.ofNat_eq_natCast, zpow_natCast]
      cases negative <;> simp
  | negSucc down =>
      refine ⟨_, _, rfl, (Nat.two_pow_pos (down + 1)).ne', ?_⟩
      rw [value?, zpow_negSucc]
      cases negative <;> simp [div_eq_mul_inv]

theorem eqvInt_iff {x : Double} {i : Int} :
    x.eqvInt i = true ↔ x.value? = some (.rational i) := by
  cases x with
  | nan => simp [eqvInt, fraction?, value?]
  | infinity negative => simp [eqvInt, fraction?, value?]
  | finite negative significand exponent =>
      obtain ⟨a, b, hfraction, hb, hexact⟩ := exists_fraction negative significand exponent
      have hunit : (b : ℚ) ≠ 0 := Nat.cast_ne_zero.mpr hb
      simp only [eqvInt, hfraction, hexact, beq_iff_eq, Option.some.injEq,
        ExactNumber.rational.injEq, div_eq_iff hunit]
      exact_mod_cast Iff.rfl

theorem eqv_iff {x y : Double} :
    x.eqv y = true ↔ ∃ value, x.value? = some value ∧ y.value? = some value := by
  cases x with
  | nan => simp [eqv, fraction?, value?]
  | infinity negative =>
      cases y with
      | nan => simp [eqv, fraction?, value?]
      | infinity other =>
          simp only [eqv, beq_iff_eq, value?, Option.some.injEq, exists_eq_left',
            ExactNumber.infinity.injEq]
          exact eq_comm
      | finite => simp [eqv, fraction?, value?]
  | finite negative significand exponent =>
      cases y with
      | nan => simp [eqv, fraction?, value?]
      | infinity other => simp [eqv, fraction?, value?]
      | finite negative' significand' exponent' =>
          obtain ⟨a, b, hfraction, hb, hexact⟩ := exists_fraction negative significand exponent
          obtain ⟨c, d, hfraction', hd, hexact'⟩ :=
            exists_fraction negative' significand' exponent'
          -- products are compared crosswise, which is to compare the quotients
          have hcross : a * d = c * b ↔ (a : ℚ) / b = c / d := by
            rw [div_eq_div_iff (Nat.cast_ne_zero.mpr hb) (Nat.cast_ne_zero.mpr hd)]
            exact_mod_cast Iff.rfl
          simp only [eqv, hfraction, hfraction', hexact, hexact', beq_iff_eq, hcross,
            Option.some.injEq, exists_eq_left', ExactNumber.rational.injEq]
          exact eq_comm

end Double

namespace Json

/-- The exact value of a number, whole or not. -/
def exactNumber? : Json → Option ExactNumber
  | .int value => some (.rational value)
  | .float value => value.value?
  | _ => none

/-- Values that are the same JSON. -/
inductive SameValue : Json → Json → Prop
  | null : SameValue .null .null
  | bool (truth : Bool) : SameValue (.bool truth) (.bool truth)
  | number {value other : Json} {number : ExactNumber} (hvalue : value.exactNumber? = some number)
      (hother : other.exactNumber? = some number) : SameValue value other
  | str (text : Text) : SameValue (.str text) (.str text)
  | list {items others : List Json} (hlength : items.length = others.length)
      (hitems : ∀ (position : Nat) (item other : Json), items[position]? = some item →
        others[position]? = some other → SameValue item other) :
      SameValue (.list items) (.list others)
  | object {fields others : List (Text × Json)}
      (hnames : ∀ name, name ∈ Table.names fields ↔ name ∈ Table.names others)
      (hfields : ∀ (name : Text) (value other : Json), Table.get? fields name = some value →
        Table.get? others name = some other → SameValue value other) :
      SameValue (.object fields) (.object others)

/-- A floating point number that is not a number. -/
def isNaN : Json → Bool
  | .float .nan => true
  | _ => false

/-- Data: every key stands once in its object, and every number has an exact value. -/
structure IsData (value : Json) : Prop where
  keysDistinct : value.KeysDistinct
  exact : value.Throughout fun inner => inner.isNaN = false

/-! ## What each kind of value is equal to -/

section Kinds

variable {value other : Json}

theorem numbersEqual_iff : numbersEqual value other = true ↔
    ∃ number, value.exactNumber? = some number ∧ other.exactNumber? = some number := by
  cases value with
  | int i =>
      cases other with
      | int j =>
          simp only [numbersEqual, beq_iff_eq, exactNumber?, Option.some.injEq, exists_eq_left',
            ExactNumber.rational.injEq, Int.cast_inj]
          exact eq_comm
      | float y => simp [numbersEqual, exactNumber?, Double.eqvInt_iff]
      | _ => simp [numbersEqual, exactNumber?]
  | float x =>
      cases other with
      | int j => simp [numbersEqual, exactNumber?, Double.eqvInt_iff]
      | float y => simp [numbersEqual, exactNumber?, Double.eqv_iff]
      | _ => simp [numbersEqual, exactNumber?]
  | _ => simp [numbersEqual, exactNumber?]

theorem null_eqv_iff : null.eqv other = true ↔ other = .null := by
  cases other <;> simp [eqv, numbersEqual]

theorem bool_eqv_iff {truth : Bool} : (bool truth).eqv other = true ↔ other = .bool truth := by
  cases other <;> simp [eqv, numbersEqual, eq_comm (a := truth)]

theorem str_eqv_iff {text : Text} : (str text).eqv other = true ↔ other = .str text := by
  cases other <;> simp [eqv, numbersEqual, eq_comm (a := text)]

theorem int_eqv_iff {i : Int} : (int i).eqv other = true ↔
    ∃ number, (int i).exactNumber? = some number ∧ other.exactNumber? = some number := by
  rw [← numbersEqual_iff]
  cases other <;> rfl

theorem float_eqv_iff {x : Double} : (float x).eqv other = true ↔
    ∃ number, (float x).exactNumber? = some number ∧ other.exactNumber? = some number := by
  rw [← numbersEqual_iff]
  cases other <;> rfl

end Kinds

theorem itemsEqv_iff {items others : List Json} :
    itemsEqv items others = true ↔
      items.length = others.length ∧ ∀ (position : Nat) (item other : Json),
        items[position]? = some item → others[position]? = some other →
          item.eqv other = true := by
  induction items generalizing others with
  | nil => cases others <;> simp [itemsEqv]
  | cons item rest ih =>
      cases others with
      | nil => simp [itemsEqv]
      | cons other others =>
          rw [itemsEqv, Bool.and_eq_true, ih, List.length_cons, List.length_cons,
            Nat.add_right_cancel_iff]
          constructor
          · rintro ⟨hfirst, hlength, hrest⟩
            refine ⟨hlength, fun position found found' hfound hfound' => ?_⟩
            cases position with
            | zero =>
                obtain rfl := Option.some.inj hfound
                obtain rfl := Option.some.inj hfound'
                exact hfirst
            | succ position => exact hrest position found found' hfound hfound'
          · rintro ⟨hlength, hall⟩
            exact ⟨hall 0 item other rfl rfl, hlength, fun position => hall (position + 1)⟩

theorem list_eqv_iff {items : List Json} {other : Json} :
    (list items).eqv other = true ↔ ∃ others, other = .list others ∧
      items.length = others.length ∧ ∀ (position : Nat) (item other : Json),
        items[position]? = some item → others[position]? = some other →
          item.eqv other = true := by
  cases other with
  | list others => simp [eqv, itemsEqv_iff]
  | _ => simp [eqv, numbersEqual]

theorem fieldsEqv_iff {fields others : List (Text × Json)} :
    fieldsEqv fields others = true ↔ ∀ field ∈ fields, ∃ other,
      Table.get? others field.1 = some other ∧ field.2.eqv other = true := by
  induction fields with
  | nil => simp [fieldsEqv]
  | cons field rest ih =>
      obtain ⟨name, value⟩ := field
      rw [fieldsEqv, Bool.and_eq_true, ih, List.forall_mem_cons]
      cases Table.get? others name <;> simp

/-- Every field has its like among the others, and no other name is left. -/
theorem fieldsEqv_and_all_has_iff {fields others : List (Text × Json)}
    (hnodup : (Table.names fields).Nodup) :
    (fieldsEqv fields others && others.all fun other => Table.has fields other.1) = true ↔
      (∀ name, name ∈ Table.names fields ↔ name ∈ Table.names others) ∧
        ∀ (name : Text) (value other : Json), Table.get? fields name = some value →
          Table.get? others name = some other → value.eqv other = true := by
  rw [Bool.and_eq_true, fieldsEqv_iff, List.all_eq_true]
  constructor
  · rintro ⟨hfields, hothers⟩
    refine ⟨fun name => ⟨fun hname => ?_, fun hname => ?_⟩,
      fun name value other hvalue hother => ?_⟩
    · obtain ⟨field, hfield, rfl⟩ := List.mem_map.mp hname
      obtain ⟨other, hother, -⟩ := hfields field hfield
      exact Table.isSome_get?_iff.mp (by rw [hother]; rfl)
    · obtain ⟨other, hother, rfl⟩ := List.mem_map.mp hname
      exact Table.isSome_get?_iff.mp (hothers other hother)
    · obtain ⟨found, hfound, heqv⟩ := hfields _ (Table.mem_of_get? hvalue)
      rwa [← Option.some.inj (hfound.symm.trans hother)]
  · rintro ⟨hnames, hvalues⟩
    refine ⟨fun field hfield => ?_, fun other hother => ?_⟩
    · have hname : field.1 ∈ Table.names others :=
        (hnames field.1).mp (List.mem_map_of_mem hfield)
      obtain ⟨other, hother⟩ := Option.isSome_iff_exists.mp (Table.isSome_get?_iff.mpr hname)
      have hvalue : Table.get? fields field.1 = some field.2 :=
        (Table.get?_eq_some_iff_mem hnodup).mpr hfield
      exact ⟨other, hother, hvalues field.1 field.2 other hvalue hother⟩
    · exact Table.isSome_get?_iff.mpr ((hnames other.1).mpr (List.mem_map_of_mem hother))

theorem object_eqv_iff {fields : List (Text × Json)} (hnodup : (Table.names fields).Nodup)
    {other : Json} :
    (object fields).eqv other = true ↔ ∃ others, other = .object others ∧
      (∀ name, name ∈ Table.names fields ↔ name ∈ Table.names others) ∧
        ∀ (name : Text) (value other : Json), Table.get? fields name = some value →
          Table.get? others name = some other → value.eqv other = true := by
  cases other with
  | object others => simp [eqv, ← fieldsEqv_and_all_has_iff hnodup]
  | _ => simp [eqv, numbersEqual]

/-! ## The comparison decides the relation -/

theorem eqv_iff_sameValue {value other : Json} (hkeys : value.KeysDistinct) :
    value.eqv other = true ↔ SameValue value other := by
  induction value using children_induction generalizing other with
  | node value ih =>
      have hchild {node : Step × Json} (hnode : node ∈ value.children) (other : Json) :
          node.2.eqv other = true ↔ SameValue node.2 other :=
        ih node hnode (keysDistinct_of_mem_children hkeys hnode)
      cases value with
      | null =>
          rw [null_eqv_iff]
          constructor
          · rintro rfl
            exact .null
          · intro hsame
            cases hsame with
            | null => rfl
            | number hvalue => cases hvalue
      | bool truth =>
          rw [bool_eqv_iff]
          constructor
          · rintro rfl
            exact .bool truth
          · intro hsame
            cases hsame with
            | bool => rfl
            | number hvalue => cases hvalue
      | str text =>
          rw [str_eqv_iff]
          constructor
          · rintro rfl
            exact .str text
          · intro hsame
            cases hsame with
            | str => rfl
            | number hvalue => cases hvalue
      | int i =>
          rw [int_eqv_iff]
          constructor
          · rintro ⟨number, hvalue, hother⟩
            exact .number hvalue hother
          · intro hsame
            cases hsame with
            | number hvalue hother => exact ⟨_, hvalue, hother⟩
      | float x =>
          rw [float_eqv_iff]
          constructor
          · rintro ⟨number, hvalue, hother⟩
            exact .number hvalue hother
          · intro hsame
            cases hsame with
            | number hvalue hother => exact ⟨_, hvalue, hother⟩
      | list items =>
          rw [list_eqv_iff]
          constructor
          · rintro ⟨others, rfl, hlength, hitems⟩
            refine .list hlength fun position item other hitem hother => ?_
            exact (hchild (mem_children_of_getElem? hitem) other).mp
              (hitems position item other hitem hother)
          · intro hsame
            cases hsame with
            | list hlength hitems =>
                refine ⟨_, rfl, hlength, fun position item other hitem hother => ?_⟩
                exact (hchild (mem_children_of_getElem? hitem) other).mpr
                  (hitems position item other hitem hother)
            | number hvalue => cases hvalue
      | object fields =>
          have hnodup : (Table.names fields).Nodup := by
            rw [KeysDistinct] at hkeys
            exact hkeys.1
          rw [object_eqv_iff hnodup]
          constructor
          · rintro ⟨others, rfl, hnames, hfields⟩
            refine .object hnames fun name value other hvalue hother => ?_
            exact (hchild (mem_children_of_get? hvalue) other).mp
              (hfields name value other hvalue hother)
          · intro hsame
            cases hsame with
            | object hnames hfields =>
                refine ⟨_, rfl, hnames, fun name value other hvalue hother => ?_⟩
                exact (hchild (mem_children_of_get? hvalue) other).mpr
                  (hfields name value other hvalue hother)
            | number hvalue => cases hvalue

/-! ## The laws of the relation -/

namespace SameValue

variable {value middle other : Json}

theorem refl (hexact : value.Throughout fun inner => inner.isNaN = false) :
    SameValue value value := by
  induction value using children_induction with
  | node value ih =>
      obtain ⟨hvalue, hchildren⟩ := throughout_iff.mp hexact
      cases value with
      | null => exact .null
      | bool truth => exact .bool truth
      | int i => exact .number rfl rfl
      | float x =>
          cases x with
          | nan => cases hvalue
          | infinity negative => exact .number rfl rfl
          | finite negative significand exponent => exact .number rfl rfl
      | str text => exact .str text
      | list items =>
          refine .list rfl fun position item other hitem hother => ?_
          obtain rfl := Option.some.inj (hitem.symm.trans hother)
          have hmem := mem_children_of_getElem? hitem
          exact ih _ hmem (hchildren _ hmem)
      | object fields =>
          refine .object (fun _ => Iff.rfl) fun name value other hvalue hother => ?_
          obtain rfl := Option.some.inj (hvalue.symm.trans hother)
          have hmem := mem_children_of_get? hvalue
          exact ih _ hmem (hchildren _ hmem)

theorem symm (hsame : SameValue value other) : SameValue other value := by
  induction hsame with
  | null => exact .null
  | bool truth => exact .bool truth
  | number hvalue hother => exact .number hother hvalue
  | str text => exact .str text
  | list hlength _ ih =>
      exact .list hlength.symm fun position item other hitem hother =>
        ih position other item hother hitem
  | object hnames _ ih =>
      exact .object (fun name => (hnames name).symm) fun name value other hvalue hother =>
        ih name other value hother hvalue

theorem exactNumber?_eq (hsame : SameValue value other) :
    value.exactNumber? = other.exactNumber? := by
  cases hsame with
  | number hvalue hother => exact hvalue.trans hother.symm
  | _ => rfl

theorem trans (hfirst : SameValue value middle) (hsecond : SameValue middle other) :
    SameValue value other := by
  induction hfirst generalizing other with
  | null => exact hsecond
  | bool truth => exact hsecond
  | number hvalue hmiddle =>
      exact .number hvalue (hsecond.exactNumber?_eq.symm.trans hmiddle)
  | str text => exact hsecond
  | @list items middles hlength _ ih =>
      cases hsecond with
      | number hmiddle => cases hmiddle
      | @list _ others hlength' hitems' =>
          refine .list (hlength.trans hlength') fun position item other hitem hother => ?_
          have hposition : position < middles.length := by
            rw [← hlength]
            exact (List.getElem?_eq_some_iff.mp hitem).1
          have hmiddle := List.getElem?_eq_getElem hposition
          exact ih position item _ hitem hmiddle (hitems' position _ other hmiddle hother)
  | @object fields middles hnames _ ih =>
      cases hsecond with
      | number hmiddle => cases hmiddle
      | @object _ others hnames' hfields' =>
          refine .object (fun name => (hnames name).trans (hnames' name))
            fun name value other hvalue hother => ?_
          have hname : name ∈ Table.names middles :=
            (hnames name).mp (Table.isSome_get?_iff.mp (by rw [hvalue]; rfl))
          obtain ⟨inner, hmiddle⟩ :=
            Option.isSome_iff_exists.mp (Table.isSome_get?_iff.mpr hname)
          exact ih name value inner hvalue hmiddle (hfields' name inner other hmiddle hother)

/-! ## Inside the same JSON -/

theorem exists_child {step : Step} {child : Json} (hsame : SameValue value other)
    (hchild : value.child? step = some child) :
    ∃ found, other.child? step = some found ∧ SameValue child found := by
  cases hsame with
  | null | bool | str => cases hchild
  | number hvalue =>
      cases value with
      | int | float => cases hchild
      | _ => cases hvalue
  | @list items others hlength hitems =>
      cases step with
      | key name => cases hchild
      | index position =>
          have hposition : position < others.length := by
            rw [← hlength]
            exact (List.getElem?_eq_some_iff.mp hchild).1
          have hother := List.getElem?_eq_getElem hposition
          exact ⟨_, hother, hitems position child _ hchild hother⟩
  | @object fields others hnames hfields =>
      cases step with
      | index position => cases hchild
      | key name =>
          have hname : name ∈ Table.names others :=
            (hnames name).mp (Table.isSome_get?_iff.mp (Option.isSome_of_mem hchild))
          obtain ⟨found, hother⟩ := Option.isSome_iff_exists.mp (Table.isSome_get?_iff.mpr hname)
          exact ⟨found, hother, hfields name child found hchild hother⟩

/-- Wherever a value stands inside the one, the same JSON stands there inside the other. -/
theorem exists_at? {way : Location} {inner : Json} (hsame : SameValue value other)
    (hinner : value.at? way = some inner) :
    ∃ found, other.at? way = some found ∧ SameValue inner found := by
  induction way generalizing value other with
  | nil =>
      obtain rfl := Option.some.inj hinner
      exact ⟨other, rfl, hsame⟩
  | cons step rest ih =>
      obtain ⟨child, hchild, hrest⟩ := Option.bind_eq_some_iff.mp hinner
      obtain ⟨found, hfound, hsameChild⟩ := hsame.exists_child hchild
      obtain ⟨last, hlast, hsameLast⟩ := ih hsameChild hrest
      refine ⟨last, ?_, hsameLast⟩
      rw [at?_cons, hfound]
      exact hlast

theorem eq_bool_iff (hsame : SameValue value other) (truth : Bool) :
    value = .bool truth ↔ other = .bool truth := by
  cases hsame with
  | bool => exact Iff.rfl
  | number hvalue hother =>
      constructor
      · rintro rfl
        cases hvalue
      · rintro rfl
        cases hother
  | null | str | list | object => constructor <;> (intro heq; cases heq)

end SameValue

/-- On data, the comparison is an equivalence relation, and it finds values equal just if they are
the same JSON.  At every place inside equal values a truth value meets the same truth value and a
number meets a number with the same exact value. -/
theorem eqv_equivalence :
    Equivalence (fun value other : {value : Json // value.IsData} =>
      value.1.eqv other.1 = true) ∧
    ∀ value other : Json, value.IsData → other.IsData →
      (value.eqv other = true ↔ SameValue value other) ∧
      (value.eqv other = true → ∀ way inner, value.at? way = some inner →
        ∃ found, other.at? way = some found ∧
          (∀ truth, inner = .bool truth ↔ found = .bool truth) ∧
          inner.exactNumber? = found.exactNumber?) := by
  have hiff (value other : Json) (hvalue : value.IsData) :
      value.eqv other = true ↔ SameValue value other := eqv_iff_sameValue hvalue.keysDistinct
  refine ⟨⟨?_, ?_, ?_⟩, fun value other hvalue hother => ⟨hiff value other hvalue, ?_⟩⟩
  · rintro ⟨value, hvalue⟩
    exact (hiff value value hvalue).mpr (.refl hvalue.exact)
  · rintro ⟨value, hvalue⟩ ⟨other, hother⟩ heqv
    exact (hiff other value hother).mpr ((hiff value other hvalue).mp heqv).symm
  · rintro ⟨value, hvalue⟩ ⟨middle, hmiddle⟩ ⟨other, hother⟩ hfirst hsecond
    exact (hiff value other hvalue).mpr
      (((hiff value middle hvalue).mp hfirst).trans ((hiff middle other hmiddle).mp hsecond))
  · intro heqv way inner hinner
    obtain ⟨found, hfound, hsame⟩ := ((hiff value other hvalue).mp heqv).exists_at? hinner
    exact ⟨found, hfound, hsame.eq_bool_iff, hsame.exactNumber?_eq⟩

/-- A whole number and a floating point number meet, under keys in another order, and beyond the
numbers that a floating point number can tell from their neighbours. -/
theorem object_sameValue_reordered :
    SameValue
      (.object [("a", .list [.bool true, .int (2 ^ 53)]), ("b", .null)])
      (.object [("b", .null), ("a", .list [.bool true, .float (.finite false 1 53)])]) ∧
    ¬ SameValue
      (.object [("a", .list [.bool true, .int (2 ^ 53 + 1)]), ("b", .null)])
      (.object [("b", .null), ("a", .list [.bool true, .float (.finite false 1 53)])]) := by
  have hwhole (i : Int) :
      (object [("a", .list [.bool true, .int i]), ("b", .null)]).IsData :=
    ⟨by simp [KeysDistinct, fieldsKeysDistinct, itemsKeysDistinct],
      by simp [Throughout, descendants, fieldDescendants, itemDescendants, isNaN]⟩
  have hfloat :
      (object [("b", .null), ("a", .list [.bool true, .float (.finite false 1 53)])]).IsData :=
    ⟨by simp [KeysDistinct, fieldsKeysDistinct, itemsKeysDistinct],
      by simp [Throughout, descendants, fieldDescendants, itemDescendants, isNaN]⟩
  obtain ⟨hsame, -⟩ := eqv_equivalence.2 _ _ (hwhole (2 ^ 53)) hfloat
  obtain ⟨hdiffers, -⟩ := eqv_equivalence.2 _ _ (hwhole (2 ^ 53 + 1)) hfloat
  exact ⟨hsame.mp (by decide +kernel), fun h => absurd (hdiffers.mpr h) (by decide +kernel)⟩

end Json

end HttpScript
