import ApiStubs.Generation
import ApiStubs.Proofs.Prefix.Inference
import ApiStubs.Proofs.Rendering.Requests

/-!
# The course of a run

A run whose patterns compile is one rendering of the ordered modules, which
starts from what inference has found and decides how the run ends.
-/

namespace ApiStubs
namespace Generation

open Rendering

/-- The registry that rendering starts from. -/
def inferred (modules : List ApiModule) : Registry :=
  (Prefix.infer { catalog := registerAll (order modules) }).registry

/-- What an element is registered as. -/
def registration? : Element → Option (String × String)
  | .constant name description => some (name, description.getD "")
  | _ => none

theorem registerAll_eq_ofElements (modules : List ApiModule) :
    registerAll modules =
      Catalog.ofElements ((modules.flatMap (·.elements)).filterMap registration?) := by
  rw [registerAll, Catalog.ofElements, List.foldl_filterMap]
  congr 1
  funext catalog element
  cases element <;> rfl

theorem wellFormed_registerAll (modules : List ApiModule) :
    Registry.WellFormed { catalog := registerAll modules } := by
  rw [registerAll_eq_ofElements]
  exact Registry.wellFormed_ofElements _

theorem registerAll_integer (modules : List ApiModule) :
    ∀ constant ∈ (registerAll modules).constants, constant.primitive = .integer := by
  rw [registerAll_eq_ofElements]
  exact fun _ hmem => Catalog.primitive_ofElements hmem

theorem distinct_registerAll (modules : List ApiModule) : (registerAll modules).Distinct := by
  rw [registerAll_eq_ofElements]
  exact Catalog.distinct_ofElements _

/-- The registered constants are those that the modules have under names that can be
read. -/
theorem registered_registerAll_iff {modules : List ApiModule} {space name : String} :
    (registerAll modules).Registered space name ↔
      ∃ m ∈ modules, ∃ fullName description,
        Element.constant fullName description ∈ m.elements ∧
          QualifiedName.ofText? fullName = some ⟨space, name⟩ := by
  rw [registerAll_eq_ofElements, Catalog.registered_ofElements_iff, Catalog.mem_readNames]
  constructor
  · rintro ⟨registered, hregistered, hread⟩
    obtain ⟨element, helement, hconstant⟩ := List.mem_filterMap.mp hregistered
    obtain ⟨m, hm, hmem⟩ := List.mem_flatMap.mp helement
    cases element with
    | constant fullName description =>
        rw [registration?, Option.some.injEq] at hconstant
        subst hconstant
        exact ⟨m, hm, fullName, description, hmem, hread⟩
    | _ => contradiction
  · rintro ⟨m, hm, fullName, description, hmem, hread⟩
    exact ⟨(fullName, description.getD ""),
      List.mem_filterMap.mpr ⟨_, List.mem_flatMap.mpr ⟨m, hm, hmem⟩, rfl⟩, hread⟩

theorem wellFormed_inferred (modules : List ApiModule) :
    (inferred modules).WellFormed :=
  Prefix.wellFormed_infer (wellFormed_registerAll (order modules))

@[simp]
theorem inferred_catalog (modules : List ApiModule) :
    (inferred modules).catalog = registerAll (order modules) :=
  Prefix.infer_catalog _

/-- What is reported before the modules are rendered. -/
def openingEvents (modules : List ApiModule) (options : Options) : List Event :=
  .generationStarted modules.length options.version options.isStrict ::
    (Prefix.infer { catalog := registerAll (order modules) }).events

theorem generate_eq_finish (modules : List ApiModule) {options : Options}
    {rules : Stub.Rules}
    (hrules : Stub.Rules.ofSettings options.settings options.isStrict = .ok rules) :
    generate modules options =
      finish options rules (order modules)
        ⟨inferred modules, openingEvents modules options⟩ := by
  unfold generate
  simp only [hrules]
  rfl

/-! ## Rendering the modules -/

/-- The type lists of all modules, in the order in which they are rendered. -/
def requestsOf (rules : Stub.Rules) (modules : List ApiModule) :
    List Reference.Request :=
  modules.flatMap (fun m =>
    (Stub.sortElements (m.elements.filter Element.isRenderable)).flatMap
      rules.requestsOf)

theorem serves_renderModules (rules : Stub.Rules) (modules : List ApiModule) :
    Serves (renderModules rules modules) (requestsOf rules modules) := by
  induction modules with
  | nil => exact serves_pure []
  | cons m rest ih =>
      have hrequests : requestsOf rules (m :: rest) =
          (Stub.sortElements (m.elements.filter Element.isRenderable)).flatMap
            rules.requestsOf ++ requestsOf rules rest := List.flatMap_cons
      rw [hrequests]
      unfold renderModules
      by_cases hnone : (m.elements.filter Element.isRenderable).isEmpty = true
      · have hempty : Stub.sortElements (m.elements.filter Element.isRenderable) = [] := by
          rw [List.isEmpty_iff.mp hnone]
          exact List.mergeSort_nil
        simp only [hnone, if_true, hempty, List.flatMap_nil, List.nil_append]
        exact (serves_report _).bind_silent (fun _ => ih)
      · simp only [hnone, Bool.false_eq_true, if_false]
        apply (Stub.serves_declare rules _).bind
        intro _
        exact ih.map_silent (fun _ => serves_pure _)

def isRendered (m : ApiModule) : Bool :=
  !(m.elements.filter Element.isRenderable).isEmpty

theorem sources_of_renderModules {rules : Stub.Rules} {modules : List ApiModule}
    {session reached : Session} {rendered : List RenderedModule}
    (hrun : outcome (renderModules rules modules) session = (.ok rendered, reached)) :
    rendered.map (·.source) = modules.filter isRendered := by
  induction modules generalizing session rendered with
  | nil =>
      rw [renderModules, outcome_pure] at hrun
      cases hrun
      rfl
  | cons m rest ih =>
      unfold renderModules at hrun
      simp only at hrun
      split at hrun
      next hnone =>
        have hskipped : ¬ isRendered m = true := by
          simp only [isRendered, hnone, Bool.not_true, Bool.false_eq_true,
            not_false_eq_true]
        rw [outcome_bind, outcome_report] at hrun
        rw [List.filter_cons_of_neg hskipped]
        exact ih hrun
      next hsome =>
        have hkept : isRendered m = true := by
          simpa only [isRendered, Bool.not_eq_true', Bool.not_eq_true] using hsome
        rw [outcome_bind] at hrun
        split at hrun
        next declarations middle hdeclare =>
          rw [outcome_bind] at hrun
          split at hrun
          next others last hothers =>
            rw [outcome_pure] at hrun
            cases hrun
            rw [List.filter_cons_of_pos hkept, List.map_cons, ih hothers]
          next => cases hrun
        next => cases hrun

theorem source_mem_of_renderModules {rules : Stub.Rules} {modules : List ApiModule}
    {session reached : Session} {rendered : List RenderedModule}
    (hrun : outcome (renderModules rules modules) session = (.ok rendered, reached))
    {entry : RenderedModule} (hentry : entry ∈ rendered) : entry.source ∈ modules := by
  have hsource := List.mem_map_of_mem (f := RenderedModule.source) hentry
  rw [sources_of_renderModules hrun] at hsource
  exact List.mem_of_mem_filter hsource

/-! ## How a run ends -/

variable {options : Options} {rules : Stub.Rules} {modules : List ApiModule}
  {session reached : Session}

theorem finish_of_ok {rendered : List RenderedModule}
    (hrun : outcome (renderModules rules modules) session = (.ok rendered, reached)) :
    finish options rules modules session =
      ⟨.ok (rendered.map (compose reached.registry options)),
        reached.events ++ [.generationCompleted rendered.length
          reached.registry.catalog.size reached.registry.ledger.listing.length]⟩ := by
  unfold outcome at hrun
  simp only [finish, hrun, List.length_map]

theorem finish_of_error {unknown : UnknownType}
    (hrun : outcome (renderModules rules modules) session = (.error unknown, reached)) :
    finish options rules modules session =
      ⟨.error (.unknownType unknown), reached.events⟩ := by
  unfold outcome at hrun
  simp only [finish, hrun]

/-- A run gives stubs only by rendering all modules, and composes them last. -/
theorem rendered_of_generate_eq_ok {units : List StubUnit}
    (hunits : (generate modules options).result = .ok units) :
    ∃ rules rendered reached,
      Stub.Rules.ofSettings options.settings options.isStrict = .ok rules ∧
      outcome (renderModules rules (order modules))
        ⟨inferred modules, openingEvents modules options⟩ = (.ok rendered, reached) ∧
      units = rendered.map (compose reached.registry options) := by
  cases hrules : Stub.Rules.ofSettings options.settings options.isStrict with
  | error invalid =>
      unfold generate at hunits
      simp only [hrules] at hunits
      contradiction
  | ok rules =>
      rw [generate_eq_finish modules hrules] at hunits
      cases hrun : outcome (renderModules rules (order modules))
          ⟨inferred modules, openingEvents modules options⟩ with
      | mk result reached =>
          cases result with
          | error unknown =>
              rw [finish_of_error hrun] at hunits
              contradiction
          | ok rendered =>
              rw [finish_of_ok hrun, Except.ok.injEq] at hunits
              exact ⟨rules, rendered, reached, rfl, hrun, hunits.symm⟩

/-- There is a stub for each namespace with an element that can be rendered. -/
theorem spaces_of_generate_eq_ok {units : List StubUnit}
    (hunits : (generate modules options).result = .ok units) :
    units.map (·.space) = ((order modules).filter isRendered).map (·.space) := by
  obtain ⟨rules, rendered, reached, -, hrun, rfl⟩ := rendered_of_generate_eq_ok hunits
  rw [← sources_of_renderModules hrun, List.map_map, List.map_map]
  rfl

end Generation
end ApiStubs
