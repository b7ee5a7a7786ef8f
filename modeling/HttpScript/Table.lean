import HttpScript.Text.Basic

/-!
# Tables

A table maps names to values and keeps the order in which names were first entered: entering a
name again replaces its value where it stands.
-/

namespace HttpScript

/-- Names with their values, in the order of first entry. -/
abbrev Table (α : Type) := List (Text × α)

namespace Table

variable {α β : Type}

/-- The value of a name. -/
def get? : Table α → Text → Option α
  | [], _ => none
  | (key, value) :: rest, name => if key = name then some value else get? rest name

/-- Whether a name is in the table. -/
def has (table : Table α) (name : Text) : Bool :=
  (get? table name).isSome

/-- Enters a name: in place if it is known, at the end otherwise. -/
def set : Table α → Text → α → Table α
  | [], name, value => [(name, value)]
  | (key, old) :: rest, name, value =>
      if key = name then (key, value) :: rest else (key, old) :: set rest name value

/-- Enters every pair of a list in turn. -/
def setAll (table : Table α) (entries : List (Text × α)) : Table α :=
  entries.foldl (fun table entry => set table entry.1 entry.2) table

/-- The table that arises from entering the pairs of a list in turn. -/
def ofEntries (entries : List (Text × α)) : Table α :=
  setAll [] entries

/-- The names of the table in order. -/
def names (table : Table α) : List Text :=
  table.map Prod.fst

/-- The entries in the order of their names. -/
def sortByName (table : Table α) : Table α :=
  table.mergeSort fun entry other => Text.precedes entry.1 other.1

/-! ## Looking up what was entered -/

@[simp] theorem get?_set (table : Table α) (name other : Text) (value : α) :
    get? (set table name value) other = if name = other then some value else get? table other := by
  induction table with
  | nil => simp [set, get?]
  | cons entry rest ih =>
      obtain ⟨key, old⟩ := entry
      by_cases h : key = name
      · subst h
        by_cases h' : key = other <;> simp [set, get?, h']
      · by_cases h' : key = other
        · subst h'
          simp [set, get?, h, Ne.symm h]
        · simp [set, get?, h, h', ih]

end Table

end HttpScript
