import ApiStubs.Stub.Declaration
import ApiStubs.Proofs.Rendering
import ApiStubs.Proofs.Stub.Rules

/-!
# Strict and lenient renderings

A lenient rendering goes on after an unknown type, a strict one ends there.  Up
to that point they do the same, step by step, so the strict one ends exactly at
the first unknown type that the lenient one reports.
-/

namespace ApiStubs

/-- The unknown type that an event reports. -/
def Event.unknown? : Event → Option UnknownType
  | .unknownType type element _ _ => some ⟨type, element⟩
  | _ => none

/-- The first unknown type that is reported. -/
def firstUnknown? (events : List Event) : Option UnknownType :=
  events.findSome? Event.unknown?

theorem firstUnknown?_append (first second : List Event) :
    firstUnknown? (first ++ second) = (firstUnknown? first).or (firstUnknown? second) :=
  List.findSome?_append

namespace Rendering

variable {α β : Type}

/-- The lenient rendering succeeds, and the strict one does the same if nothing
unknown is reported and fails with the first report otherwise.  Neither depends
on what was reported before. -/
def CutsOff (strict lenient : Rendering α) : Prop :=
  ∀ registry, ∃ a reached new,
    (∀ events, outcome lenient ⟨registry, events⟩ = (.ok a, ⟨reached, events ++ new⟩)) ∧
    match firstUnknown? new with
    | none =>
        ∀ events, outcome strict ⟨registry, events⟩ = (.ok a, ⟨reached, events ++ new⟩)
    | some unknown =>
        ∀ events, ∃ stopped, outcome strict ⟨registry, events⟩ = (.error unknown, stopped)

/-- A step that is the same in both and reports nothing unknown. -/
theorem cutsOff_of_same {step : Rendering α} (new : List Event)
    (hnew : firstUnknown? new = none)
    (hstep : ∀ registry, ∃ a reached, ∀ events,
      outcome step ⟨registry, events⟩ = (.ok a, ⟨reached, events ++ new⟩)) :
    CutsOff step step := by
  intro registry
  obtain ⟨a, reached, hrun⟩ := hstep registry
  refine ⟨a, reached, new, hrun, ?_⟩
  rw [hnew]
  exact hrun

theorem cutsOff_pure (a : α) : CutsOff (pure a) (pure a) := by
  apply cutsOff_of_same [] rfl
  intro registry
  refine ⟨a, registry, fun events => ?_⟩
  rw [outcome_pure, List.append_nil]

theorem cutsOff_foldRequest (request : Reference.Request) :
    CutsOff (TypeRules.foldRequest request) (TypeRules.foldRequest request) := by
  apply cutsOff_of_same [] rfl
  intro registry
  refine ⟨(Reference.fold registry request).2, (Reference.fold registry request).1,
    fun events => ?_⟩
  rw [outcome_foldRequest, List.append_nil]

/-- Reporting anything but an unknown type is the same in both. -/
theorem cutsOff_report {event : Event} (hknown : event.unknown? = none) :
    CutsOff (report event) (report event) := by
  apply cutsOff_of_same [event]
  · simp [firstUnknown?, hknown]
  · intro registry
    exact ⟨(), registry, fun events => rfl⟩

theorem CutsOff.bind {strict lenient : Rendering α}
    {strictNext lenientNext : α → Rendering β} (hfirst : CutsOff strict lenient)
    (hnext : ∀ a, CutsOff (strictNext a) (lenientNext a)) :
    CutsOff (strict >>= strictNext) (lenient >>= lenientNext) := by
  intro registry
  obtain ⟨a, middle, before, hlenient, hstrict⟩ := hfirst registry
  obtain ⟨b, reached, after, hlenient', hstrict'⟩ := hnext a middle
  refine ⟨b, reached, before ++ after, ?_, ?_⟩
  · intro events
    rw [outcome_bind, hlenient, ← List.append_assoc]
    exact hlenient' (events ++ before)
  · rw [firstUnknown?_append]
    cases hunknown : firstUnknown? before with
    | some unknown =>
        -- The strict run has ended in the first step.
        rw [hunknown] at hstrict
        intro events
        obtain ⟨stopped, hstopped⟩ := hstrict events
        exact ⟨stopped, by rw [outcome_bind, hstopped]⟩
    | none =>
        -- Both go on from the same session, so the second step decides.
        rw [hunknown] at hstrict
        have hcontinue : ∀ events, outcome (strict >>= strictNext) ⟨registry, events⟩ =
            outcome (strictNext a) ⟨middle, events ++ before⟩ := by
          intro events
          rw [outcome_bind, hstrict]
        simp only [hcontinue, Option.none_or, ← List.append_assoc]
        cases hlater : firstUnknown? after with
        | some unknown =>
            rw [hlater] at hstrict'
            exact fun events => hstrict' (events ++ before)
        | none =>
            rw [hlater] at hstrict'
            exact fun events => hstrict' (events ++ before)

theorem cutsOff_mapM {strict lenient : α → Rendering β}
    (hsteps : ∀ a, CutsOff (strict a) (lenient a)) (as : List α) :
    CutsOff (as.mapM strict) (as.mapM lenient) := by
  induction as with
  | nil => exact cutsOff_pure []
  | cons a as ih =>
      rw [List.mapM_cons, List.mapM_cons]
      exact (hsteps a).bind (fun b => ih.bind (fun bs => cutsOff_pure (b :: bs)))

end Rendering

/-! ## Types -/

namespace TypeRules

open Rendering

theorem cutsOff_renderToken (rules : TypeRules) (position : Position) (token : String) :
    CutsOff ((rules.withStrict true).renderToken position token)
      ((rules.withStrict false).renderToken position token) := by
  intro registry
  have hjudge : ∀ strict,
      (rules.withStrict strict).judge registry.ledger position (dropLiteralMark token) =
        rules.judge registry.ledger position (dropLiteralMark token) :=
    fun _ => rfl
  cases hverdict : rules.judge registry.ledger position (dropLiteralMark token) with
  | some rendered =>
      refine ⟨rendered, registry, [], ?_, ?_⟩
      · intro events
        rw [outcome_renderToken]
        simp only [hjudge, hverdict, List.append_nil]
      · intro events
        rw [outcome_renderToken]
        simp only [hjudge, hverdict, List.append_nil]
  | none =>
      refine ⟨rules.sentinel, registry, [.unknownType (dropLiteralMark token)
        position.element position.parameter rules.sentinel], ?_, ?_⟩
      · intro events
        rw [outcome_renderToken]
        simp only [hjudge, hverdict]
        rfl
      · intro events
        rw [outcome_renderToken]
        simp only [hjudge, hverdict]
        exact ⟨_, rfl⟩

theorem cutsOff_renderTokens (rules : TypeRules) (position : Position)
    (done tokens : List String) :
    CutsOff ((rules.withStrict true).renderTokens position done tokens)
      ((rules.withStrict false).renderTokens position done tokens) := by
  induction tokens generalizing done with
  | nil => exact cutsOff_pure done
  | cons token rest ih =>
      exact (rules.cutsOff_renderToken position token).bind (fun _ => ih _)

theorem cutsOff_renderTypes (rules : TypeRules) (position : Position)
    (request : Reference.Request) :
    CutsOff ((rules.withStrict true).renderTypes position request)
      ((rules.withStrict false).renderTypes position request) := by
  apply (cutsOff_foldRequest request).bind
  intro folded
  exact (rules.cutsOff_renderTokens position [] folded.types).bind
    (fun _ => cutsOff_pure _)

end TypeRules

/-! ## Declarations -/

namespace Stub

open Rendering

theorem cutsOff_renderParameter (rules : Rules) (element : String)
    (parameter : Parameter) :
    CutsOff ((rules.withStrict true).renderParameter element parameter)
      ((rules.withStrict false).renderParameter element parameter) :=
  (rules.types.cutsOff_renderTypes _ _).bind (fun _ => cutsOff_pure _)

theorem cutsOff_renderResult (rules : Rules) (element : String) (parameter : Parameter) :
    CutsOff ((rules.withStrict true).renderResult element parameter)
      ((rules.withStrict false).renderResult element parameter) :=
  (rules.types.cutsOff_renderTypes _ _).bind (fun _ => cutsOff_pure _)

theorem cutsOff_renderFunction (rules : Rules) (name : String)
    (description : Option String) (parameters returns : List Parameter) :
    CutsOff ((rules.withStrict true).renderFunction name description parameters returns)
      ((rules.withStrict false).renderFunction name description parameters returns) := by
  unfold Rules.renderFunction
  have hignores : ∀ strict, (rules.withStrict strict).ignores name = rules.ignores name :=
    fun _ => rfl
  simp only [hignores]
  by_cases hignored : rules.ignores name = true
  · simp only [hignored, if_true]
    exact cutsOff_pure none
  · simp only [hignored, Bool.false_eq_true, if_false]
    apply (cutsOff_mapM (cutsOff_renderParameter rules name) parameters).bind
    intro parameterLines
    apply (cutsOff_mapM (cutsOff_renderResult rules name) returns).bind
    intro resultLines
    exact cutsOff_pure _

theorem cutsOff_render (rules : Rules) :
    ∀ element, CutsOff ((rules.withStrict true).render element)
      ((rules.withStrict false).render element)
  | .function name description parameters returns =>
      cutsOff_renderFunction rules name description parameters returns
  | .constant _ _ => cutsOff_pure _
  | .variable _ _ => cutsOff_pure _
  | .classType _ _ _ _ => cutsOff_pure _
  | .alias _ _ => cutsOff_pure _
  | .unsupported _ _ => cutsOff_pure _

theorem cutsOff_declare (rules : Rules) (elements : List Element) :
    CutsOff ((rules.withStrict true).declare elements)
      ((rules.withStrict false).declare elements) := by
  induction elements with
  | nil => exact cutsOff_pure []
  | cons element rest ih =>
      apply (cutsOff_render rules element).bind
      intro text?
      exact ih.bind (fun _ => cutsOff_pure _)

end Stub
end ApiStubs
