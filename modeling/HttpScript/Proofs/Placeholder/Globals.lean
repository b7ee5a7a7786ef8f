import HttpScript.Proofs.Document.Concatenation
import HttpScript.Proofs.Document.WellFormed
import HttpScript.Proofs.Placeholder.Single
import HttpScript.Run.Session

/-!
# Global variables of a document

A global variable is kept twice: among the variables of its own block, and in the table of the
document, where the last declaration of a name counts.  A request asks its own block first.  So two
requests give a global variable the same value if they see the same declaration of it, whatever else
they declare, and below a global value it is always the declaration of the document that is seen.
-/

namespace HttpScript

/-! ## What a name stands for -/

/-- What a placeholder for a variable leads to that is seen as a global one. -/
def Variable.lead (declared : Variable) : Lead :=
  match declared.value with
  | some value => .text true value
  | none => .done (pure "true".toList)

namespace Scope

variable {scope : Scope} {name : Text} {declared : Variable}

theorem lead_of_lookup {inGlobal : Bool} (hname : Text.isName name = true)
    (hlookup : scope.lookup inGlobal name = .ok (declared.toValue, true)) :
    scope.lead inGlobal name = declared.lead := by
  have hcall : isCall name = false := by
    rw [isCall, decide_eq_false_iff_not]
    intro hhead
    exact Text.notMem_name (by decide) (by decide) hname (List.mem_of_mem_head? hhead)
  rw [lead, hcall, if_neg Bool.false_ne_true, hlookup, Variable.lead, Variable.toValue]
  cases declared.value <;> rfl

theorem outcomePath?_of_name (hname : Text.isName name = true) :
    scope.outcomePath? name = none := by
  rw [outcomePath?, Text.splitAt?_eq_none (Text.notMem_name (by decide) (by decide) hname)]
  rfl

/-- In global context a name stands for the declaration of the document. -/
theorem lead_true_of_name (hname : Text.isName name = true)
    (hglobal : Table.get? scope.globals name = some declared) :
    scope.lead true name = declared.lead := by
  apply lead_of_lookup hname
  rw [lookup, outcomePath?_of_name hname]
  dsimp only
  rw [if_pos rfl, lookupGlobal, hglobal]

/-- Where local variables are seen, a name stands for its declaration in the block, or else for the
one of the document. -/
theorem lead_false_of_name (hname : Text.isName name = true)
    (hlocal : ∀ own, Table.get? scope.locals name = some own → own.isGlobal = true)
    (hseen : (Table.get? scope.locals name).or (Table.get? scope.globals name) = some declared) :
    scope.lead false name = declared.lead := by
  apply lead_of_lookup hname
  rw [lookup, outcomePath?_of_name hname]
  dsimp only
  rw [if_neg Bool.false_ne_true]
  cases hget : Table.get? scope.locals name with
  | some own =>
      rw [hget] at hseen
      obtain rfl : own = declared := Option.some.inj hseen
      dsimp only
      rw [hlocal own hget]
  | none =>
      rw [hget] at hseen
      dsimp only
      rw [lookupGlobal, show Table.get? scope.globals name = some declared from hseen]

end Scope

/-! ## Requests of a document -/

namespace Request

/-- A request does not declare a name as a local variable. -/
def HasNoLocal (request : Request) (name : Text) : Prop :=
  ∀ own, Table.get? request.declared name = some own → own.isGlobal = true

/-- The declaration of a name that a request sees: its own one, or else the one that counts in the
document. -/
def seen? (request : Request) (globals : Table Variable) (name : Text) : Option Variable :=
  (Table.get? request.declared name).or (Table.get? globals name)

end Request

theorem isName_of_mem_globals {text : Text} {records : List Record}
    (hread : Document.read text = .ok records) {name : Text}
    (hname : name ∈ Table.names (collectGlobals records)) : Text.isName name = true := by
  obtain ⟨entry, hentry, rfl⟩ := List.mem_map.mp hname
  rcases Table.mem_of_mem_setAll hentry with hnil | hentry
  · exact nomatch hnil
  · obtain ⟨record, hrecord, hdeclared⟩ := List.mem_flatMap.mp (List.mem_of_mem_filter hentry)
    have hwellFormed := Document.isWellFormed_of_mem_read hread record hrecord
    exact hwellFormed.declared.name entry hdeclared

/-- The scope of a request of a document. -/
def Request.scopeIn (request : Request) (records : List Record) (env : Table Text)
    (outcomes : Table Json) : Scope :=
  { env, globals := collectGlobals records, locals := request.declared, outcomes }

theorem Session.scope_eq_scopeIn (session : Session) (settings : Settings)
    (records : List Record) (request : Request) :
    session.scope settings (collectGlobals records) request =
      request.scopeIn records settings.env
        (session.outcomes.map fun (name, outcome) => (name, outcome.toJson)) := rfl

/-- A placeholder gives the same in two scopes with other local variables if it leads to the same
global declaration in both. -/
theorem expand_eq_of_lead {first second : Scope} {name : Text} {inGlobal : Bool}
    {declared : Variable} (hname : Text.isName name = true)
    (hlocals : second = { first with locals := second.locals })
    (hfirst : first.lead false name = declared.lead)
    (hsecond : second.lead inGlobal name = declared.lead) :
    expand first (writePlaceholder name) =
      expandBehind second [] inGlobal (writePlaceholder name) := by
  have hexpand : expand first (writePlaceholder name) =
      expandBehind first [] false (writePlaceholder name) := rfl
  have hnil (scope : Scope) (inGlobal : Bool) :
      scope.follow [] inGlobal name = scope.lead inGlobal name := by simp [Scope.follow]
  rw [hexpand, expandBehind_writePlaceholder _ _ _ (.of_name hname),
    expandBehind_writePlaceholder _ _ _ (.of_name hname), hnil, hnil, hfirst, hsecond,
    Variable.lead]
  cases declared.value with
  | none => rfl
  | some value =>
      dsimp only
      rw [hlocals]
      exact (expandBehind_true_eq first second.locals _ value).symm

/-! ## A variable that is declared twice -/

/-- A request whose address has a placeholder, in a block that only declares variables. -/
def asking (line : Nat) (declared : Table Variable) : Request where
  line
  declared
  directives := []
  method := "GET"
  url := "/\x7b\x7bx\x7d\x7d"
  headers := []
  body := none
  bodyJson := none

/-- Two blocks declare a variable, the second one with a value of its own. -/
def declaredTwice (value : Text) : List Record :=
  [.request (asking 2 [("x", ⟨some "1", true⟩)]),
    .request (asking 6 [("g", ⟨some "\x7b\x7bx\x7d\x7d", true⟩), ("x", ⟨some value, true⟩)])]

theorem read_declaredTwice {value second : Text}
    (hsecond : Document.read second = .ok [.request (asking 3
      [("g", ⟨some "\x7b\x7bx\x7d\x7d", true⟩), ("x", ⟨some value, true⟩)])]) :
    Document.read ("@@x=1\nGET /\x7b\x7bx\x7d\x7d" ++ "\n###\n" ++ second) =
      .ok (declaredTwice value) := by
  have hlines : Line.ofText "@@x=1\nGET /\x7b\x7bx\x7d\x7d" =
      [⟨1, "@@x=1"⟩, ⟨2, "GET /\x7b\x7bx\x7d\x7d"⟩] := by decide
  have hfirst : Document.read "@@x=1\nGET /\x7b\x7bx\x7d\x7d" =
      .ok [.request (asking 2 [("x", ⟨some "1", true⟩)])] :=
    Document.read_of_readRecord hlines rfl
  rw [Document.read_eq_of_separated _ second (by decide), hfirst, hsecond]
  rfl

theorem hasNoLocal_of_declaredTwice (value : Text) :
    ∀ request ∈ requestsOf (declaredTwice value), request.HasNoLocal "x" := by
  intro request hrequest own hown
  rcases List.mem_cons.mp hrequest with rfl | hrequest
  · exact Option.some.inj hown ▸ rfl
  · rw [List.mem_singleton.mp hrequest] at hown
    exact Option.some.inj hown ▸ rfl

/-! ## One value in a document -/

/-- A placeholder for a global variable of a document gives the same in any two requests that see
the same declaration of the name and have no local variable of it.  If that is the declaration that
counts in the document, it gives the same below the value of another global variable, behind any
path of placeholders, but for the path of a cycle, unless a cycle is closed with the path itself.
If all of the path is seen in global context, it is filled there just when it is filled on its own. -/
theorem expand_global {text : Text} {records : List Record}
    (hread : Document.read text = .ok records) {name : Text}
    (hname : name ∈ Table.names (collectGlobals records)) (env : Table Text)
    (outcomes : Table Json) :
    let globals := collectGlobals records
    let scope (request : Request) : Scope := request.scopeIn records env outcomes
    (∀ first ∈ requestsOf records, ∀ second ∈ requestsOf records,
      first.HasNoLocal name → second.HasNoLocal name →
      first.seen? globals name = second.seen? globals name →
      expand (scope first) (writePlaceholder name) =
        expand (scope second) (writePlaceholder name)) ∧
    ∀ request ∈ requestsOf records, ∀ reader ∈ requestsOf records,
      request.HasNoLocal name → request.seen? globals name = Table.get? globals name →
      ∀ path sources,
        let alone := (expand (scope request) (writePlaceholder name)).outcome sources
        let inside :=
          (expandBehind (scope reader) path true (writePlaceholder name)).outcome sources
        (inside = (alone.1.mapError (Fault.behind path), alone.2) ∨
          ∃ fault, ClosesCycle (scope reader) path true (writePlaceholder name) fault ∧
            inside.1 = .error fault) ∧
        ∀ outer inner, Chain (scope reader) true outer path true inner →
          name ∈ placeholders inner →
          ∀ value after, inside = (.ok value, after) ↔ alone = (.ok value, after) := by
  intro globals scope
  have hisName := isName_of_mem_globals hread hname
  obtain ⟨declared, hglobal⟩ := Option.isSome_iff_exists.mp (Table.isSome_get?_iff.mpr hname)
  refine ⟨fun first _ second _ hfirst hsecond hsame => ?_,
    fun request _ reader _ hlocal hseen path sources => ?_⟩
  · obtain ⟨seen, hseen⟩ : ∃ seen, first.seen? globals name = some seen := by
      rw [Request.seen?, hglobal]
      cases Table.get? first.declared name <;> exact ⟨_, rfl⟩
    exact expand_eq_of_lead hisName rfl (Scope.lead_false_of_name hisName hfirst hseen)
      (Scope.lead_false_of_name hisName hsecond (hsame.symm.trans hseen))
  · have hsame : expand (scope request) (writePlaceholder name) =
        expandBehind (scope reader) [] true (writePlaceholder name) :=
      expand_eq_of_lead hisName rfl
        (Scope.lead_false_of_name hisName hlocal (hseen.trans hglobal))
        (Scope.lead_true_of_name hisName hglobal)
    rw [hsame]
    refine ⟨expandBehind_eq_or (scope reader) path true (writePlaceholder name) sources,
      fun outer inner hchain hinner value after => ?_⟩
    have hpart : placeholders (writePlaceholder name) ⊆ placeholders inner := by
      rw [placeholders_writePlaceholder hisName]
      exact List.cons_subset.mpr ⟨hinner, List.nil_subset _⟩
    exact expandBehind_eq_ok_iff hchain hpart

/-- Both blocks declare the variable alike, and the value of another one refers to it. -/
theorem expand_global_agreeing :
    let text : Text :=
      "@@x=1\nGET /\x7b\x7bx\x7d\x7d\n###\n@@g=\x7b\x7bx\x7d\x7d\n@@x=1\nGET /\x7b\x7bx\x7d\x7d"
    let records := declaredTwice "1"
    ∃ first second, Document.read text = .ok records ∧ requestsOf records = [first, second] ∧
      "x".toList ∈ Table.names (collectGlobals records) ∧
      expand (first.scopeIn records [] []) (writePlaceholder "x") =
        expand (second.scopeIn records [] []) (writePlaceholder "x") ∧
      (expandBehind (first.scopeIn records [] []) ["g"] true (writePlaceholder "x")).outcome
        .sample = (.ok "1", .sample) := by
  intro text records
  have hlines : Line.ofText "@@g=\x7b\x7bx\x7d\x7d\n@@x=1\nGET /\x7b\x7bx\x7d\x7d" =
      [⟨1, "@@g=\x7b\x7bx\x7d\x7d"⟩, ⟨2, "@@x=1"⟩, ⟨3, "GET /\x7b\x7bx\x7d\x7d"⟩] := by decide
  have hread : Document.read text = .ok records :=
    read_declaredTwice (Document.read_of_readRecord hlines rfl)
  have hglobal : "x".toList ∈ Table.names (collectGlobals records) := by decide
  have hlocal := hasNoLocal_of_declaredTwice "1"
  let first : Request := asking 2 [("x", ⟨some "1", true⟩)]
  let second : Request :=
    asking 6 [("g", ⟨some "\x7b\x7bx\x7d\x7d", true⟩), ("x", ⟨some "1", true⟩)]
  have hfirst : first ∈ requestsOf records := List.mem_cons_self
  have hsecond : second ∈ requestsOf records := List.mem_cons_of_mem first List.mem_cons_self
  have hchain : Chain (first.scopeIn records [] []) true "\x7b\x7bg\x7d\x7d" ["g"] true
      "\x7b\x7bx\x7d\x7d" := .cons (by decide) rfl rfl .nil
  obtain ⟨hsame, hinside⟩ := expand_global hread hglobal [] []
  refine ⟨first, second, hread, rfl, hglobal,
    hsame first hfirst second hsecond (hlocal first hfirst) (hlocal second hsecond) rfl, ?_⟩
  obtain ⟨-, hfilled⟩ := hinside first hfirst first hfirst (hlocal first hfirst) rfl ["g"] .sample
  exact (hfilled _ _ hchain (by decide) _ _).mpr rfl

/-- A block that declares a variable anew sees its own declaration, but below the value of another
global variable it is the declaration of the document that is seen.  And a cycle is reported with
all placeholders on the way to it, or sooner where one of these is met again. -/
theorem expand_global_redeclared :
    (let text : Text :=
        "@@x=1\nGET /\x7b\x7bx\x7d\x7d\n###\n@@g=\x7b\x7bx\x7d\x7d\n@@x=2\nGET /\x7b\x7bx\x7d\x7d"
      let records := declaredTwice "2"
      ∃ first second, Document.read text = .ok records ∧ requestsOf records = [first, second] ∧
        first.HasNoLocal "x" ∧ second.HasNoLocal "x" ∧
        (expand (first.scopeIn records [] []) (writePlaceholder "x")).outcome .sample =
          (.ok "1", .sample) ∧
        (expand (second.scopeIn records [] []) (writePlaceholder "x")).outcome .sample =
          (.ok "2", .sample) ∧
        (expandBehind (first.scopeIn records [] []) ["g"] true (writePlaceholder "x")).outcome
          .sample = (.ok "2", .sample)) ∧
    (let text : Text :=
        "@@x=\x7b\x7by\x7d\x7d\n@@y=\x7b\x7bx\x7d\x7d\n@@g=\x7b\x7bx\x7d\x7d\n" ++
          "GET /\x7b\x7bx\x7d\x7d"
      ∃ request, Document.read text = .ok [.request request] ∧
        let scope := request.scopeIn [.request request] [] []
        ((expand scope (writePlaceholder "x")).outcome .sample).1 =
          .error (.problem (.cycle ["x", "y", "x"])) ∧
        ((expandBehind scope ["g"] true (writePlaceholder "x")).outcome .sample).1 =
          .error (.problem (.cycle ["g", "x", "y", "x"])) ∧
        ((expand scope (writePlaceholder "y")).outcome .sample).1 =
          .error (.problem (.cycle ["y", "x", "y"])) ∧
        ((expandBehind scope ["x"] true (writePlaceholder "y")).outcome .sample).1 =
          .error (.problem (.cycle ["x", "y", "x"]))) := by
  constructor
  · intro text records
    have hlines : Line.ofText "@@g=\x7b\x7bx\x7d\x7d\n@@x=2\nGET /\x7b\x7bx\x7d\x7d" =
        [⟨1, "@@g=\x7b\x7bx\x7d\x7d"⟩, ⟨2, "@@x=2"⟩, ⟨3, "GET /\x7b\x7bx\x7d\x7d"⟩] := by decide
    have hread : Document.read text = .ok records :=
      read_declaredTwice (Document.read_of_readRecord hlines rfl)
    have hlocal := hasNoLocal_of_declaredTwice "2"
    exact ⟨_, _, hread, rfl, hlocal _ List.mem_cons_self,
      hlocal _ (List.mem_cons_of_mem _ List.mem_cons_self), rfl, rfl, rfl⟩
  · intro text
    have hlines : Line.ofText text = [⟨1, "@@x=\x7b\x7by\x7d\x7d"⟩, ⟨2, "@@y=\x7b\x7bx\x7d\x7d"⟩,
      ⟨3, "@@g=\x7b\x7bx\x7d\x7d"⟩, ⟨4, "GET /\x7b\x7bx\x7d\x7d"⟩] := by decide
    have hread : Document.read text = .ok [.request (asking 4
        [("x", ⟨some "\x7b\x7by\x7d\x7d", true⟩), ("y", ⟨some "\x7b\x7bx\x7d\x7d", true⟩),
          ("g", ⟨some "\x7b\x7bx\x7d\x7d", true⟩)])] :=
      Document.read_of_readRecord hlines rfl
    exact ⟨_, hread, rfl, rfl, rfl, rfl⟩

end HttpScript
