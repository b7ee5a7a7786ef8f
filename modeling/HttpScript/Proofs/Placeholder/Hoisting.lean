import HttpScript.Proofs.Placeholder.Globals

/-!
# Global variables wherever they are declared

The global variables of a document are gathered from all of its blocks before any request is
expanded, so a request sees those of later blocks too.  The order of the blocks decides nothing but
which of two declarations of a name counts.  Where no two blocks declare the same global name, the
gathered table holds the same under every name whatever the order.

Expansion asks its scope only what a placeholder leads to.  The bound on its depth is read off the
texts of the scope, and with another table it may be another one; but no bound that leaves room
makes a difference, and so two scopes in which every placeholder leads to the same expand alike.
-/

namespace HttpScript

/-! ## What is gathered -/

/-- A record declares a global variable of a name. -/
def Record.DeclaresGlobal (record : Record) (name : Text) : Prop :=
  ∃ declared, (name, declared) ∈ record.block.declared ∧ declared.isGlobal = true

/-- No two records that differ declare a global variable of the same name. -/
def DeclareGlobalsApart (records : List Record) : Prop :=
  ∀ first ∈ records, ∀ second ∈ records, ∀ name,
    first.DeclaresGlobal name → second.DeclaresGlobal name → first = second

theorem Record.declaresGlobal_of_get? {record : Record} {name : Text} {declared : Variable}
    (hget : Table.get? (collectGlobals [record]) name = some declared) :
    record.DeclaresGlobal name := by
  rcases Table.mem_of_mem_setAll (Table.mem_of_get? hget) with hnil | hentry
  · exact nomatch hnil
  · obtain ⟨hdeclared, hglobal⟩ := List.mem_filter.mp hentry
    rw [List.flatMap_singleton] at hdeclared
    exact ⟨declared, hdeclared, hglobal⟩

theorem get?_collectGlobals_cons (record : Record) (rest : List Record) (name : Text) :
    Table.get? (collectGlobals (record :: rest)) name =
      (Table.get? (collectGlobals rest) name).or (Table.get? (collectGlobals [record]) name) :=
  Document.collectGlobals_append [record] rest name

/-- What is gathered under a name was declared in one of the records. -/
theorem exists_of_get?_collectGlobals {records : List Record} {name : Text} {declared : Variable}
    (hget : Table.get? (collectGlobals records) name = some declared) :
    ∃ record ∈ records, Table.get? (collectGlobals [record]) name = some declared := by
  induction records with
  | nil => exact nomatch hget
  | cons record rest ih =>
      rw [get?_collectGlobals_cons, Option.or_eq_some_iff] at hget
      rcases hget with hrest | ⟨-, hrecord⟩
      · obtain ⟨other, hother, hfound⟩ := ih hrest
        exact ⟨other, List.mem_cons_of_mem record hother, hfound⟩
      · exact ⟨record, List.mem_cons_self, hrecord⟩

theorem exists_get?_collectGlobals_of_mem {records : List Record} {record : Record}
    (hrecord : record ∈ records) {name : Text} {declared : Variable}
    (hget : Table.get? (collectGlobals [record]) name = some declared) :
    ∃ other, Table.get? (collectGlobals records) name = some other := by
  induction records with
  | nil => exact nomatch hrecord
  | cons first rest ih =>
      rw [get?_collectGlobals_cons]
      rcases List.mem_cons.mp hrecord with rfl | hrecord
      · rw [hget]
        cases Table.get? (collectGlobals rest) name <;> exact ⟨_, rfl⟩
      · obtain ⟨other, hother⟩ := ih hrecord
        rw [hother]
        exact ⟨other, rfl⟩

/-- A declaration counts just if it counts in its own record. -/
theorem get?_collectGlobals_eq_some_iff {records : List Record}
    (hapart : DeclareGlobalsApart records) {name : Text} {declared : Variable} :
    Table.get? (collectGlobals records) name = some declared ↔
      ∃ record ∈ records, Table.get? (collectGlobals [record]) name = some declared := by
  refine ⟨exists_of_get?_collectGlobals, fun ⟨record, hrecord, hget⟩ => ?_⟩
  obtain ⟨counting, hcounting⟩ := exists_get?_collectGlobals_of_mem hrecord hget
  obtain ⟨other, hother, hfound⟩ := exists_of_get?_collectGlobals hcounting
  -- the record of the declaration that counts can be no other one
  have hsame : record = other := hapart record hrecord other hother name
    (Record.declaresGlobal_of_get? hget) (Record.declaresGlobal_of_get? hfound)
  rw [← hsame, hget] at hfound
  rw [hcounting, hfound]

/-- The order of the records decides nothing about what is gathered. -/
theorem get?_collectGlobals_of_perm {records reordered : List Record}
    (hperm : records.Perm reordered) (hapart : DeclareGlobalsApart records) (name : Text) :
    Table.get? (collectGlobals reordered) name = Table.get? (collectGlobals records) name := by
  have hreordered : DeclareGlobalsApart reordered := by
    intro first hfirst second hsecond
    exact hapart first (hperm.mem_iff.mpr hfirst) second (hperm.mem_iff.mpr hsecond)
  refine Option.ext fun declared => ?_
  rw [get?_collectGlobals_eq_some_iff hapart, get?_collectGlobals_eq_some_iff hreordered]
  exact exists_congr fun record => and_congr_left fun _ => hperm.mem_iff.symm

/-! ## Scopes in which every placeholder leads to the same -/

section Alike

variable {scope other : Scope}

theorem expand_eq_of_leads (hlead : other.lead = scope.lead) (text : Text) :
    expand other text = expand scope text := by
  have hfollow : other.follow = scope.follow := by
    unfold Scope.follow
    rw [hlead]
  refine funext fun sources => ?_
  have hother := fills_expand other text sources
  rw [hfollow] at hother
  obtain ⟨hresult, hafter⟩ := (fills_expand scope text sources).unique hother
  exact Prod.ext hresult hafter

theorem expandHeaders_eq_of_leads (hlead : other.lead = scope.lead)
    (headers : List (Text × Text)) : expandHeaders other headers = expandHeaders scope headers := by
  induction headers with
  | nil => rfl
  | cons header rest ih =>
      rw [expandHeaders, expandHeaders, expand_eq_of_leads hlead, ih]

theorem Request.resolve_eq_of_leads (hlead : other.lead = scope.lead) (request : Request) :
    request.resolve other = request.resolve scope := by
  have hbody : expandOptional other request.body = expandOptional scope request.body := by
    cases request.body with
    | none => rfl
    | some text => rw [expandOptional, expandOptional, expand_eq_of_leads hlead]
  rw [Request.resolve, Request.resolve, expand_eq_of_leads hlead, expandHeaders_eq_of_leads hlead,
    hbody]

/-- Global variables are only ever asked for by name. -/
theorem Scope.lead_eq_of_globals (scope : Scope) {globals : Table Variable}
    (hsame : ∀ name, Table.get? globals name = Table.get? scope.globals name) :
    ({ scope with globals } : Scope).lead = scope.lead := by
  have hlookup (inGlobal : Bool) (identifier : Text) :
      ({ scope with globals } : Scope).lookup inGlobal identifier =
        scope.lookup inGlobal identifier := by
    unfold lookup lookupGlobal
    simp only [hsame]
    rfl
  funext inGlobal identifier
  rw [lead, lead, hlookup]

end Alike

/-! ## Blocks in another order -/

/-- If no two blocks of a document declare the same global name, every request is expanded to the
same in whatever order the blocks stand, or fails with the same fault, and leaves the same
sources. -/
theorem resolve_of_perm {records reordered : List Record} (hperm : records.Perm reordered)
    (hapart : DeclareGlobalsApart records) (env : Table Text) (outcomes : Table Json) :
    ∀ request ∈ requestsOf records, request ∈ requestsOf reordered ∧ ∀ sources,
      (request.resolve (request.scopeIn reordered env outcomes)).outcome sources =
        (request.resolve (request.scopeIn records env outcomes)).outcome sources := by
  intro request hrequest
  refine ⟨(hperm.filterMap Record.request?).mem_iff.mp hrequest, fun sources => ?_⟩
  have hlead : (request.scopeIn reordered env outcomes).lead =
      (request.scopeIn records env outcomes).lead :=
    (request.scopeIn records env outcomes).lead_eq_of_globals
      (get?_collectGlobals_of_perm hperm hapart)
  rw [Request.resolve_eq_of_leads hlead]

/-- A variable of a later block refers to one of a still later block, and draws an identifier.  The
last block comes first when the order is reversed. -/
theorem resolve_of_perm_reversed :
    let request : Request := asking 1 []
    let records : List Record :=
      [.request request,
        .bare ⟨4, [("x", ⟨some "\x7b\x7by\x7d\x7d-\x7b\x7b$guid\x7d\x7d", true⟩)], []⟩,
        .bare ⟨7, [("y", ⟨some "1", true⟩)], []⟩]
    records.Perm records.reverse ∧ DeclareGlobalsApart records ∧
      (request.resolve (request.scopeIn records.reverse [] [])).outcome .sample =
        (.ok ⟨"GET", "/1-00000000-0000-4000-8000-000000000001", [], none⟩,
          { Sources.sample with issued := 1 }) := by
  intro request records
  have hperm : records.Perm records.reverse := (List.reverse_perm records).symm
  have hapart : DeclareGlobalsApart records := by
    intro first hfirst second hsecond name ⟨one, hone, _⟩ ⟨other, hother, _⟩
    simp only [records, List.mem_cons, List.not_mem_nil, or_false] at hfirst hsecond
    rcases hfirst with rfl | rfl | rfl
    · exact nomatch hone
    · rcases hsecond with rfl | rfl | rfl
      · exact nomatch hother
      · rfl
      · have hx := congrArg Prod.fst (List.mem_singleton.mp hone)
        have hy := congrArg Prod.fst (List.mem_singleton.mp hother)
        exact absurd (hx.symm.trans hy) (by decide)
    · rcases hsecond with rfl | rfl | rfl
      · exact nomatch hother
      · have hy := congrArg Prod.fst (List.mem_singleton.mp hone)
        have hx := congrArg Prod.fst (List.mem_singleton.mp hother)
        exact absurd (hx.symm.trans hy) (by decide)
      · rfl
  have hresolve := (resolve_of_perm hperm hapart [] [] request List.mem_cons_self).2 .sample
  exact ⟨hperm, hapart, hresolve.trans rfl⟩

end HttpScript
