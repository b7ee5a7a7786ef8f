import HttpScript.Placeholder.Expansion
import HttpScript.Proofs.Placeholder.Filling

/-!
# What functions can give

Of all that the functions depend on only the number of identifiers given out changes while a text is
expanded.  It decides which identifier comes next, but never whether a function succeeds.

A call fails with a problem, which cannot be mistaken for one of a reference, or it moves a date out
of the calendar.
-/

namespace HttpScript

/-- Sources at some point of time. -/
def Sources.sample : Sources where
  environ := []
  clock := ⟨⟨2024, 1, 31⟩, 10, 30, 15, 0, some 0⟩
  localOffset := 0
  draw := .lowest
  issued := 0

/-- Sources that are the same but for the number of identifiers given out. -/
def Sources.Match (base sources : Sources) : Prop :=
  ∃ issued, sources = { base with issued }

theorem Sources.Match.refl (sources : Sources) : Sources.Match sources sources :=
  ⟨sources.issued, rfl⟩

namespace Function

/-- What a call gives, and what it leaves of the sources. -/
theorem outcome_evaluate (call : Text) (sources : Sources) :
    (evaluate call).outcome sources =
      if identifierNames.contains (splitCall call).1 then
        (.ok (identifier (sources.issued + 1)), { sources with issued := sources.issued + 1 })
      else match steady.lookup (splitCall call).1 with
        | some function => (function sources (splitCall call).2, sources)
        | none => (.error (.problem (.unknownFunction (splitCall call).1)), sources) := by
  unfold evaluate
  dsimp only
  split
  · rfl
  · cases steady.lookup (splitCall call).1 with
    | none => rfl
    | some function =>
        rw [Expanding.outcome_bind]
        change (evaluate.liftExcept (function sources (splitCall call).2)).outcome sources =
          (function sources (splitCall call).2, sources)
        cases function sources (splitCall call).2 <;> rfl

theorem steady_cases {name : Text} {function : Sources → Text → Except Fault Text}
    (hfunction : steady.lookup name = some function) :
    function = processEnv ∨ function = randomInt ∨
      function = (fun sources => datetime sources.clock) ∨
      function = (fun sources arguments => do datetime (← localNow sources) arguments) ∨
      function = timestamp := by
  have hmem : function ∈ steady.map Prod.snd := by
    obtain ⟨before, after, hsteady, -⟩ := List.lookup_eq_some_iff.mp hfunction
    rw [hsteady, List.map_append, List.mem_append]
    exact .inr List.mem_cons_self
  simpa only [steady, List.map_cons, List.map_nil, List.mem_cons, List.not_mem_nil, or_false]
    using hmem

/-- The functions that leave the sources as they are do not look at the identifiers given out. -/
theorem steady_eq {name : Text} {function : Sources → Text → Except Fault Text}
    (hfunction : steady.lookup name = some function) (sources : Sources) (issued : Nat)
    (arguments : Text) :
    function { sources with issued } arguments = function sources arguments := by
  rcases steady_cases hfunction with rfl | rfl | rfl | rfl | rfl <;> rfl

end Function

/-- A computation that treats matching sources alike: it succeeds from all of them or from none, and
leaves matching ones. -/
structure IsEven (computation : Expanding Text) : Prop where
  match_after : ∀ base sources, Sources.Match base sources →
    Sources.Match base (computation.outcome sources).2
  isOk_eq : ∀ base sources, Sources.Match base sources →
    (computation.outcome sources).1.isOk = (computation.outcome base).1.isOk

namespace IsEven

theorem evaluate (call : Text) : IsEven (Function.evaluate call) where
  match_after := by
    rintro base _ ⟨issued, rfl⟩
    rw [Function.outcome_evaluate]
    split
    · exact ⟨issued + 1, rfl⟩
    · split <;> exact ⟨issued, rfl⟩
  isOk_eq := by
    rintro base _ ⟨issued, rfl⟩
    rw [Function.outcome_evaluate, Function.outcome_evaluate]
    split
    · rfl
    · cases hfunction : Function.steady.lookup (Function.splitCall call).1 with
      | none => rfl
      | some function => exact congrArg Except.isOk (Function.steady_eq hfunction base issued _)

/-- Whatever a placeholder leads to, other than a text, treats matching sources alike. -/
theorem of_lead {scope : Scope} {inGlobal : Bool} {identifier : Text} {found : Expanding Text}
    (hlead : scope.lead inGlobal identifier = .done found) : IsEven found := by
  unfold Scope.lead at hlead
  split at hlead
  · rw [← Lead.done.inj hlead]
    exact evaluate identifier
  · split at hlead
    · rw [← Lead.done.inj hlead]
      exact ⟨fun _ _ hmatch => hmatch, fun _ _ _ => rfl⟩
    · exact nomatch hlead
    · rw [← Lead.done.inj hlead]
      exact ⟨fun _ _ hmatch => hmatch, fun _ _ _ => rfl⟩

variable {computation : Expanding Text} (heven : IsEven computation) {base sources after : Sources}
  {result : Except Fault Text}

include heven

theorem match_of_outcome (hmatch : Sources.Match base sources)
    (houtcome : computation.outcome sources = (result, after)) : Sources.Match base after := by
  have hafter := heven.match_after base sources hmatch
  rwa [houtcome] at hafter

theorem isOk_eq_of_outcome (hmatch : Sources.Match base sources)
    (houtcome : computation.outcome sources = (result, after)) {other otherAfter : Sources}
    {otherResult : Except Fault Text} (hotherMatch : Sources.Match base other)
    (hother : computation.outcome other = (otherResult, otherAfter)) :
    result.isOk = otherResult.isOk := by
  have hfirst := heven.isOk_eq base sources hmatch
  have hsecond := heven.isOk_eq base other hotherMatch
  rw [houtcome] at hfirst
  rw [hother] at hsecond
  exact hfirst.trans hsecond.symm

end IsEven

/-! ## What a call fails with -/

/-- A problem of a placeholder that is no call: it repeats one before it, or nothing has its name. -/
inductive Problem.OfReference : Problem → Prop
  | cycle (path : List Text) : OfReference (.cycle path)
  | hiddenVariable (name : Text) : OfReference (.hiddenVariable name)
  | undefinedVariable (name : Text) : OfReference (.undefinedVariable name)

/-- A problem of a call. -/
inductive Problem.OfCall : Problem → Prop
  | unknownFunction (name : Text) : OfCall (.unknownFunction name)
  | notInteger (value : Text) : OfCall (.notInteger value)
  | missingVariableName : OfCall .missingVariableName
  | emptyRange (low high : Int) : OfCall (.emptyRange low high)
  | unknownUnit (unit : Text) : OfCall (.unknownUnit unit)
  | badTimestampArguments (arguments : Text) : OfCall (.badTimestampArguments arguments)
  | badDatetimeArguments (arguments : Text) : OfCall (.badDatetimeArguments arguments)

/-- What a call can fail with: a problem of its own, or a date that leaves the calendar. -/
inductive CallFault : Fault → Prop
  | problem (problem : Problem) (hown : problem.OfCall) : CallFault (.problem problem)
  | shift (fault : ShiftFault) : CallFault (.breakdown (.shift fault))

/-- A result that is no fault but one of a call. -/
def FailsAsCall {α : Type} (result : Except Fault α) : Prop :=
  ∀ fault, result = .error fault → CallFault fault

namespace FailsAsCall

variable {α β : Type} {result : Except Fault α}

theorem ok (value : α) : FailsAsCall (.ok value : Except Fault α) := nofun

theorem error {fault : Fault} (hfault : CallFault fault) :
    FailsAsCall (.error fault : Except Fault α) := by
  intro other heq
  rwa [← Except.error.inj heq]

theorem fail {problem : Problem} (hown : problem.OfCall) :
    FailsAsCall (Function.fail problem : Except Fault α) :=
  error (.problem problem hown)

theorem shift (result : Except ShiftFault α) :
    FailsAsCall (result.mapError fun fault => .breakdown (.shift fault)) := by
  cases result with
  | error fault => exact error (.shift fault)
  | ok value => exact ok value

theorem bind (hresult : FailsAsCall result) {next : α → Except Fault β}
    (hnext : ∀ value, FailsAsCall (next value)) : FailsAsCall (result >>= next) := by
  cases result with
  | error fault => exact error (hresult fault rfl)
  | ok value => exact hnext value

end FailsAsCall

namespace Function

theorem failsAsCall_processEnv (sources : Sources) (arguments : Text) :
    FailsAsCall (processEnv sources arguments) := by
  unfold processEnv
  split
  · exact .fail .missingVariableName
  · exact .ok _

theorem failsAsCall_readBound (default : Int) (word : Option Text) :
    FailsAsCall (readBound default word) := by
  unfold readBound
  split
  · exact .ok default
  · split
    · exact .ok _
    · exact .fail (.notInteger _)

theorem failsAsCall_randomInt (sources : Sources) (arguments : Text) :
    FailsAsCall (randomInt sources arguments) := by
  refine (failsAsCall_readBound _ _).bind fun low =>
    (failsAsCall_readBound _ _).bind fun high => ?_
  split
  · exact .fail (.emptyRange low high)
  · exact .ok _

theorem failsAsCall_shifted (moment : DateTime) (shift : Option (Int × Text)) :
    FailsAsCall (shifted moment shift) := by
  unfold shifted
  split
  · exact .ok moment
  · split
    · exact .fail (.unknownUnit _)
    · exact .shift _

theorem failsAsCall_write (moment : DateTime) (style : Style) :
    FailsAsCall (write moment style) := by
  cases style with
  | iso8601 => exact .ok _
  | rfc1123 => exact .shift _
  | pattern text => exact .ok _

theorem failsAsCall_datetime (now : DateTime) (arguments : Text) :
    FailsAsCall (datetime now arguments) := by
  unfold datetime
  split
  · exact .fail (.badDatetimeArguments arguments)
  · exact (failsAsCall_shifted _ _).bind fun moment => failsAsCall_write moment _

theorem failsAsCall_timestamp (sources : Sources) (arguments : Text) :
    FailsAsCall (timestamp sources arguments) := by
  unfold timestamp
  split
  · exact .fail (.badTimestampArguments arguments)
  · exact (failsAsCall_shifted _ _).bind fun moment => .ok _

theorem failsAsCall_steady {name : Text} {function : Sources → Text → Except Fault Text}
    (hfunction : steady.lookup name = some function) (sources : Sources) (arguments : Text) :
    FailsAsCall (function sources arguments) := by
  rcases steady_cases hfunction with rfl | rfl | rfl | rfl | rfl
  · exact failsAsCall_processEnv sources arguments
  · exact failsAsCall_randomInt sources arguments
  · exact failsAsCall_datetime sources.clock arguments
  · exact (FailsAsCall.shift _).bind fun now => failsAsCall_datetime now arguments
  · exact failsAsCall_timestamp sources arguments

theorem failsAsCall_evaluate (call : Text) (sources : Sources) :
    FailsAsCall ((evaluate call).outcome sources).1 := by
  rw [outcome_evaluate]
  split
  · exact .ok _
  · cases hfunction : steady.lookup (splitCall call).1 with
    | none => exact .fail (.unknownFunction _)
    | some function => exact failsAsCall_steady hfunction sources _

end Function

end HttpScript
