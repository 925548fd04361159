import ApiStubs.Stub.Declaration
import ApiStubs.Proofs.Reference.Resolution
import ApiStubs.Proofs.Rendering

/-!
# The requests that a rendering resolves

Rendering touches the registry only by folding type lists, one after the other
in the order in which they are declared.  A rendering that fails has folded the
lists up to the one with the unknown type.
-/

namespace ApiStubs
namespace Rendering

variable {α β : Type}

/-- The rendering folds the requests in their order, all of them if it succeeds. -/
def Serves (rendering : Rendering α) (requests : List Reference.Request) : Prop :=
  ∀ session, ∃ served, served <+: requests ∧
    (outcome rendering session).2.registry = Reference.foldAll session.registry served ∧
    ∀ a, (outcome rendering session).1 = .ok a → served = requests

theorem Serves.wellFormed {rendering : Rendering α}
    {requests : List Reference.Request} (hserves : rendering.Serves requests)
    {session : Session} (hwell : session.registry.WellFormed) :
    (rendering.outcome session).2.registry.WellFormed := by
  obtain ⟨served, -, hregistry, -⟩ := hserves session
  rw [hregistry]
  exact Reference.wellFormed_foldAll hwell served

theorem serves_pure (a : α) : Serves (pure a) [] :=
  fun _ => ⟨[], List.prefix_rfl, rfl, fun _ _ => rfl⟩

theorem serves_report (event : Event) : Serves (report event) [] :=
  fun _ => ⟨[], List.prefix_rfl, rfl, fun _ _ => rfl⟩

theorem serves_foldRequest (request : Reference.Request) :
    Serves (TypeRules.foldRequest request) [request] := by
  intro session
  refine ⟨[request], List.prefix_rfl, ?_, fun _ _ => rfl⟩
  rw [outcome_foldRequest]
  rfl

theorem Serves.bind {first : Rendering α} {next : α → Rendering β}
    {before after : List Reference.Request} (hfirst : first.Serves before)
    (hnext : ∀ a, (next a).Serves after) : (first >>= next).Serves (before ++ after) := by
  intro session
  obtain ⟨served, hserved, hregistry, hdone⟩ := hfirst session
  rw [outcome_bind]
  cases hrun : outcome first session with
  | mk result reached =>
      rw [hrun] at hregistry hdone
      cases result with
      | error unknown =>
          exact ⟨served, hserved.trans (List.prefix_append before after), hregistry,
            fun a herror => by contradiction⟩
      | ok a =>
          have hall : served = before := hdone a rfl
          subst hall
          obtain ⟨later, hlater, hregistry', hdone'⟩ := hnext a reached
          refine ⟨served ++ later, ?_, ?_, ?_⟩
          · exact (List.prefix_append_right_inj served).mpr hlater
          · rw [Reference.foldAll_append, ← hregistry]
            exact hregistry'
          · intro b hb
            rw [hdone' b hb]

/-- A first step that folds nothing leaves the requests to the next one. -/
theorem Serves.bind_silent {first : Rendering α} {next : α → Rendering β}
    {requests : List Reference.Request} (hfirst : first.Serves [])
    (hnext : ∀ a, (next a).Serves requests) : (first >>= next).Serves requests :=
  hfirst.bind hnext

theorem Serves.map_silent {first : Rendering α} {next : α → Rendering β}
    {requests : List Reference.Request} (hfirst : first.Serves requests)
    (hnext : ∀ a, (next a).Serves []) : (first >>= next).Serves requests := by
  have hbind := hfirst.bind hnext
  rwa [List.append_nil] at hbind

theorem serves_mapM {f : α → Rendering β} {requestOf : α → Reference.Request}
    (hf : ∀ a, (f a).Serves [requestOf a]) (as : List α) :
    Serves (as.mapM f) (as.map requestOf) := by
  induction as with
  | nil => exact serves_pure []
  | cons a as ih =>
      rw [List.mapM_cons]
      exact (hf a).bind (fun _ => ih.map_silent (fun _ => serves_pure _))

end Rendering

/-! ## Types -/

namespace TypeRules

open Rendering

theorem serves_renderToken (rules : TypeRules) (position : Position) (token : String) :
    Serves (rules.renderToken position token) [] := by
  intro session
  refine ⟨[], List.prefix_rfl, ?_, fun _ _ => rfl⟩
  rw [outcome_renderToken]
  cases rules.judge session.registry.ledger position (dropLiteralMark token) <;> rfl

theorem serves_renderTokens (rules : TypeRules) (position : Position)
    (done tokens : List String) :
    Serves (rules.renderTokens position done tokens) [] := by
  induction tokens generalizing done with
  | nil => exact serves_pure done
  | cons token rest ih =>
      exact (rules.serves_renderToken position token).bind_silent (fun _ => ih _)

theorem serves_renderTypes (rules : TypeRules) (position : Position)
    (request : Reference.Request) :
    Serves (rules.renderTypes position request) [request] := by
  apply (serves_foldRequest request).map_silent
  intro folded
  exact (rules.serves_renderTokens position [] folded.types).bind_silent
    (fun _ => serves_pure _)

end TypeRules

/-! ## Declarations -/

def Parameter.request (parameter : Parameter) : Reference.Request :=
  ⟨parameter.types, parameter.doc⟩

namespace Stub

open Rendering

/-- The type lists of a function, unless it is ignored. -/
def Rules.functionRequests (rules : Rules) (name : String)
    (parameters returns : List Parameter) : List Reference.Request :=
  if rules.ignores name then []
  else parameters.map Parameter.request ++ returns.map Parameter.request

/-- The type lists of an element; only functions have some. -/
def Rules.requestsOf (rules : Rules) : Element → List Reference.Request
  | .function name _ parameters returns => rules.functionRequests name parameters returns
  | _ => []

theorem serves_renderParameter (rules : Rules) (element : String) (parameter : Parameter) :
    Serves (rules.renderParameter element parameter) [parameter.request] :=
  (rules.types.serves_renderTypes _ parameter.request).map_silent (fun _ => serves_pure _)

theorem serves_renderResult (rules : Rules) (element : String) (parameter : Parameter) :
    Serves (rules.renderResult element parameter) [parameter.request] :=
  (rules.types.serves_renderTypes _ parameter.request).map_silent (fun _ => serves_pure _)

theorem serves_renderFunction (rules : Rules) (name : String)
    (description : Option String) (parameters returns : List Parameter) :
    Serves (rules.renderFunction name description parameters returns)
      (rules.functionRequests name parameters returns) := by
  unfold Rules.renderFunction Rules.functionRequests
  by_cases hignored : rules.ignores name = true
  · simp only [hignored, if_true]
    exact serves_pure none
  · simp only [hignored, Bool.false_eq_true, if_false]
    apply (serves_mapM (serves_renderParameter rules name) parameters).bind
    intro _
    exact (serves_mapM (serves_renderResult rules name) returns).map_silent
      (fun _ => serves_pure _)

theorem serves_render (rules : Rules) :
    ∀ element, Serves (rules.render element) (rules.requestsOf element)
  | .function name description parameters returns =>
      serves_renderFunction rules name description parameters returns
  | .constant _ _ => serves_pure _
  | .variable _ _ => serves_pure _
  | .classType _ _ _ _ => serves_pure _
  | .alias _ _ => serves_pure _
  | .unsupported _ _ => serves_pure _

theorem serves_declare (rules : Rules) (elements : List Element) :
    Serves (rules.declare elements) (elements.flatMap rules.requestsOf) := by
  induction elements with
  | nil => exact serves_pure []
  | cons element rest ih =>
      rw [List.flatMap_cons]
      apply (serves_render rules element).bind
      intro _
      exact ih.map_silent (fun _ => serves_pure _)

end Stub
end ApiStubs
