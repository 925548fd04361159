import ApiStubs.Proofs.Rendering.Strictness

/-!
# What a rendering reports

Reports are put behind the earlier ones.  Declarations report the unknown types of their
type lists and nothing else, so every other event of a run comes from the run itself.
-/

namespace ApiStubs
namespace Rendering

variable {α β : Type} {kind : Event → Prop}

/-- However it ends, the rendering only adds reports, all of them of the kind. -/
def Reports (kind : Event → Prop) (rendering : Rendering α) : Prop :=
  ∀ session : Session, ∃ new, (outcome rendering session).2.events = session.events ++ new ∧
    ∀ event ∈ new, kind event

theorem reports_pure (a : α) : Reports kind (pure a) :=
  fun session => ⟨[], by simp, by simp⟩

theorem reports_foldRequest (request : Reference.Request) :
    Reports kind (TypeRules.foldRequest request) :=
  fun session => ⟨[], by simp, by simp⟩

theorem Reports.bind {first : Rendering α} {next : α → Rendering β}
    (hfirst : Reports kind first) (hnext : ∀ a, Reports kind (next a)) :
    Reports kind (first >>= next) := by
  intro session
  obtain ⟨before, hbefore, hkind⟩ := hfirst session
  rw [outcome_bind]
  cases hrun : outcome first session with
  | mk result reached =>
      rw [hrun] at hbefore
      cases result with
      | error unknown => exact ⟨before, hbefore, hkind⟩
      | ok a =>
          obtain ⟨after, hafter, hkind'⟩ := hnext a reached
          refine ⟨before ++ after, ?_, List.forall_mem_append.mpr ⟨hkind, hkind'⟩⟩
          simp only at hbefore ⊢
          rw [hafter, hbefore, List.append_assoc]

theorem reports_mapM {f : α → Rendering β} (hf : ∀ a, Reports kind (f a)) (as : List α) :
    Reports kind (as.mapM f) := by
  induction as with
  | nil => exact reports_pure []
  | cons a as ih =>
      rw [List.mapM_cons]
      exact (hf a).bind (fun b => ih.bind (fun bs => reports_pure (b :: bs)))

/-- All that is reported are unknown types. -/
abbrev ReportsUnknown (rendering : Rendering α) : Prop :=
  Reports (fun event => event.unknown?.isSome = true) rendering

end Rendering

/-! ## Types -/

namespace TypeRules

open Rendering

theorem reportsUnknown_renderToken (rules : TypeRules) (position : Position)
    (token : String) : ReportsUnknown (rules.renderToken position token) := by
  intro session
  rw [outcome_renderToken]
  cases rules.judge session.registry.ledger position (dropLiteralMark token) with
  | some rendered => exact ⟨[], by simp, by simp⟩
  | none => exact ⟨_, rfl, by simp [Event.unknown?]⟩

theorem reportsUnknown_renderTokens (rules : TypeRules) (position : Position)
    (done tokens : List String) :
    ReportsUnknown (rules.renderTokens position done tokens) := by
  induction tokens generalizing done with
  | nil => exact reports_pure done
  | cons token rest ih =>
      exact (rules.reportsUnknown_renderToken position token).bind (fun _ => ih _)

theorem reportsUnknown_renderTypes (rules : TypeRules) (position : Position)
    (request : Reference.Request) : ReportsUnknown (rules.renderTypes position request) := by
  apply (reports_foldRequest request).bind
  intro folded
  exact (rules.reportsUnknown_renderTokens position [] folded.types).bind
    (fun _ => reports_pure _)

end TypeRules

/-! ## Declarations -/

namespace Stub

open Rendering

theorem reportsUnknown_renderParameter (rules : Rules) (element : String)
    (parameter : Parameter) : ReportsUnknown (rules.renderParameter element parameter) :=
  (rules.types.reportsUnknown_renderTypes _ _).bind (fun _ => reports_pure _)

theorem reportsUnknown_renderResult (rules : Rules) (element : String)
    (parameter : Parameter) : ReportsUnknown (rules.renderResult element parameter) :=
  (rules.types.reportsUnknown_renderTypes _ _).bind (fun _ => reports_pure _)

theorem reportsUnknown_renderFunction (rules : Rules) (name : String)
    (description : Option String) (parameters returns : List Parameter) :
    ReportsUnknown (rules.renderFunction name description parameters returns) := by
  unfold Rules.renderFunction
  by_cases hignored : rules.ignores name = true
  · simp only [hignored, if_true]
    exact reports_pure none
  · simp only [hignored, Bool.false_eq_true, if_false]
    apply (reports_mapM (reportsUnknown_renderParameter rules name) parameters).bind
    intro parameterLines
    exact (reports_mapM (reportsUnknown_renderResult rules name) returns).bind
      (fun _ => reports_pure _)

theorem reportsUnknown_render (rules : Rules) :
    ∀ element, ReportsUnknown (rules.render element)
  | .function name description parameters returns =>
      reportsUnknown_renderFunction rules name description parameters returns
  | .constant _ _ => reports_pure _
  | .variable _ _ => reports_pure _
  | .classType _ _ _ _ => reports_pure _
  | .alias _ _ => reports_pure _
  | .unsupported _ _ => reports_pure _

theorem reportsUnknown_declare (rules : Rules) (elements : List Element) :
    ReportsUnknown (rules.declare elements) := by
  induction elements with
  | nil => exact reports_pure []
  | cons element rest ih =>
      apply (reportsUnknown_render rules element).bind
      intro text?
      exact ih.bind (fun _ => reports_pure _)

end Stub
end ApiStubs
