import ApiStubs.Proofs.Reference.Locality
import ApiStubs.Proofs.Rendering.Requests

/-!
# Renderings that stay inside some spaces

Two sessions may differ in what they hold of other spaces and in what was reported.
A rendering whose type lists mention only the spaces inside cannot tell them apart:
it gives the same result in both, and what they hold inside stays the same.
-/

namespace ApiStubs

/-- Two well-formed registries hold the same of every space inside. -/
structure Registry.AgreeInside (inside : String → Prop) (first second : Registry) :
    Prop where
  wellFormedFirst : first.WellFormed
  wellFormedSecond : second.WellFormed
  only : ∀ space, inside space → first.only space = second.only space

/-- No request mentions a space that is not inside. -/
def Reference.Within (inside : String → Prop) (requests : List Reference.Request) : Prop :=
  ∀ request ∈ requests, ∀ space, request.Mentions space → inside space

namespace Rendering

variable {α β : Type} {inside : String → Prop}

/-- Sessions that agree inside give the same result, and agree inside afterwards. -/
def Local (inside : String → Prop) (rendering : Rendering α) : Prop :=
  ∀ first second : Session, Registry.AgreeInside inside first.registry second.registry →
    (outcome rendering first).1 = (outcome rendering second).1 ∧
      Registry.AgreeInside inside (outcome rendering first).2.registry
        (outcome rendering second).2.registry

theorem local_pure (a : α) : Local inside (pure a) :=
  fun _ _ hagree => ⟨rfl, hagree⟩

theorem local_report (event : Event) : Local inside (report event) :=
  fun _ _ hagree => ⟨rfl, hagree⟩

theorem Local.bind {first : Rendering α} {next : α → Rendering β}
    (hfirst : Local inside first) (hnext : ∀ a, Local inside (next a)) :
    Local inside (first >>= next) := by
  intro left right hagree
  obtain ⟨hresult, hreached⟩ := hfirst left right hagree
  rw [outcome_bind, outcome_bind]
  cases hleft : outcome first left with
  | mk result reached =>
      cases hright : outcome first right with
      | mk result' reached' =>
          rw [hleft, hright] at hresult hreached
          simp only at hresult hreached
          subst hresult
          cases result with
          | error unknown => exact ⟨rfl, hreached⟩
          | ok a => exact hnext a reached reached' hreached

theorem local_mapM {f : α → Rendering β} {as : List α} (hf : ∀ a ∈ as, Local inside (f a)) :
    Local inside (as.mapM f) := by
  induction as with
  | nil => exact local_pure []
  | cons a as ih =>
      rw [List.mapM_cons]
      apply (hf a List.mem_cons_self).bind
      intro b
      exact (ih (fun other hother => hf other (List.mem_cons_of_mem a hother))).bind
        (fun bs => local_pure (b :: bs))

end Rendering

/-! ## Types -/

namespace TypeRules

open Rendering

variable {β : Type} {inside : String → Prop}

theorem local_renderToken (rules : TypeRules) (position : Position) {token : String}
    (hinside : ∀ qualified, QualifiedName.ofText? (dropLiteralMark token) = some qualified →
      inside qualified.space) :
    Local inside (rules.renderToken position token) := by
  intro first second hagree
  have hfull : first.registry.ledger.hasFull (dropLiteralMark token) =
      second.registry.ledger.hasFull (dropLiteralMark token) := by
    apply Ledger.hasFull_congr
    intro qualified hread
    exact (Registry.only_eq_iff.mp (hagree.only _ (hinside qualified hread))).2
  have hjudge : rules.judge first.registry.ledger position (dropLiteralMark token) =
      rules.judge second.registry.ledger position (dropLiteralMark token) := by
    unfold judge isKnown
    rw [hfull]
  rw [outcome_renderToken, outcome_renderToken, hjudge]
  cases rules.judge second.registry.ledger position (dropLiteralMark token) with
  | some rendered => exact ⟨rfl, hagree⟩
  | none => exact ⟨rfl, hagree⟩

theorem local_renderTokens (rules : TypeRules) (position : Position)
    {tokens : List String}
    (hinside : ∀ token ∈ tokens, ∀ qualified,
      QualifiedName.ofText? (dropLiteralMark token) = some qualified →
        inside qualified.space) (done : List String) :
    Local inside (rules.renderTokens position done tokens) := by
  induction tokens generalizing done with
  | nil => exact local_pure done
  | cons token rest ih =>
      apply (rules.local_renderToken position (hinside token List.mem_cons_self)).bind
      intro _
      exact ih (fun other hother => hinside other (List.mem_cons_of_mem token hother)) _

/-- Folding writes inside alike, so what is done with the folded list can go on from
sessions that agree. -/
theorem local_foldRequest_bind {request : Reference.Request}
    {next : Reference.Folded → Rendering β}
    (hinside : ∀ space, request.Mentions space → inside space)
    (hnext : ∀ registry : Registry, registry.WellFormed →
      Local inside (next (Reference.fold registry request).2)) :
    Local inside (foldRequest request >>= next) := by
  intro first second hagree
  have honly : ∀ space, request.Mentions space →
      first.registry.only space = second.registry.only space :=
    fun space hmentions => hagree.only space (hinside space hmentions)
  have hproper := hagree.wellFormedSecond.properNames
  have hfolded := Reference.fold_congr hproper honly
  have hreached : Registry.AgreeInside inside (Reference.fold first.registry request).1
      (Reference.fold second.registry request).1 := {
    wellFormedFirst := Reference.wellFormed_fold hagree.wellFormedFirst request
    wellFormedSecond := Reference.wellFormed_fold hagree.wellFormedSecond request
    only := fun space hspace =>
      Reference.only_fold_congr hproper honly (hagree.only space hspace) }
  rw [outcome_bind, outcome_bind, outcome_foldRequest, outcome_foldRequest, hfolded]
  exact hnext second.registry hagree.wellFormedSecond ⟨_, first.events⟩ ⟨_, second.events⟩
    hreached

theorem local_renderTypes (rules : TypeRules) (position : Position)
    {request : Reference.Request} (hinside : ∀ space, request.Mentions space → inside space) :
    Local inside (rules.renderTypes position request) := by
  apply local_foldRequest_bind hinside
  intro registry hwell
  refine (rules.local_renderTokens position ?_ []).bind (fun _ => local_pure _)
  intro token htoken qualified hread
  exact hinside _ (Reference.mentions_of_mem_fold_types hwell htoken hread)

end TypeRules

/-! ## Declarations -/

namespace Stub

open Rendering

variable {inside : String → Prop}

theorem local_renderParameter (rules : Rules) (element : String) {parameter : Parameter}
    (hinside : ∀ space, parameter.request.Mentions space → inside space) :
    Local inside (rules.renderParameter element parameter) :=
  (rules.types.local_renderTypes _ hinside).bind (fun _ => local_pure _)

theorem local_renderResult (rules : Rules) (element : String) {parameter : Parameter}
    (hinside : ∀ space, parameter.request.Mentions space → inside space) :
    Local inside (rules.renderResult element parameter) :=
  (rules.types.local_renderTypes _ hinside).bind (fun _ => local_pure _)

theorem local_renderFunction (rules : Rules) (name : String)
    (description : Option String) {parameters returns : List Parameter}
    (hwithin : Reference.Within inside (rules.functionRequests name parameters returns)) :
    Local inside (rules.renderFunction name description parameters returns) := by
  unfold Rules.renderFunction
  by_cases hignored : rules.ignores name = true
  · simp only [hignored, if_true]
    exact local_pure none
  · rw [Rules.functionRequests, if_neg hignored] at hwithin
    simp only [hignored, Bool.false_eq_true, if_false]
    refine (local_mapM ?_).bind (fun _ => (local_mapM ?_).bind (fun _ => local_pure _))
    · intro parameter hparameter
      apply local_renderParameter
      exact hwithin _ (List.mem_append_left _ (List.mem_map_of_mem hparameter))
    · intro result hresult
      apply local_renderResult
      exact hwithin _ (List.mem_append_right _ (List.mem_map_of_mem hresult))

theorem local_render (rules : Rules) :
    ∀ {element}, Reference.Within inside (rules.requestsOf element) →
      Local inside (rules.render element)
  | .function name description _ _, hwithin =>
      local_renderFunction rules name description hwithin
  | .constant _ _, _ => local_pure _
  | .variable _ _, _ => local_pure _
  | .classType _ _ _ _, _ => local_pure _
  | .alias _ _, _ => local_pure _
  | .unsupported _ _, _ => local_pure _

theorem local_declare (rules : Rules) {elements : List Element}
    (hwithin : Reference.Within inside (elements.flatMap rules.requestsOf)) :
    Local inside (rules.declare elements) := by
  induction elements with
  | nil => exact local_pure []
  | cons element rest ih =>
      rw [List.flatMap_cons] at hwithin
      have hfirst : Reference.Within inside (rules.requestsOf element) :=
        fun request hrequest => hwithin request (List.mem_append_left _ hrequest)
      have hrest : Reference.Within inside (rest.flatMap rules.requestsOf) :=
        fun request hrequest => hwithin request (List.mem_append_right _ hrequest)
      apply (local_render rules hfirst).bind
      intro _
      exact (ih hrest).bind (fun _ => local_pure _)

end Stub
end ApiStubs
