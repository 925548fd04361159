import ApiStubs.Proofs.Generation.Strictness
import ApiStubs.Proofs.Prefix.Locality
import ApiStubs.Proofs.Rendering.Locality

/-!
# What a stub takes from a run

The constants of a space come from the elements that name them there, and its aliases
from its constants and from the type lists that mention it.  A stub shows the registry
at its own namespace only, so it is fixed by these parts of the modules.
-/

namespace ApiStubs

namespace Element

/-- The type lists of an element, each with its description. -/
def requests : Element → List Reference.Request
  | .function _ _ parameters returns =>
      parameters.map Parameter.request ++ returns.map Parameter.request
  | _ => []

/-- The space that a constant is named in. -/
def constantSpace? : Element → Option String
  | .constant name _ => (QualifiedName.ofText? name).map (·.space)
  | _ => none

theorem constantSpace?_eq_some_iff {name space : String} {description : Option String} :
    (Element.constant name description).constantSpace? = some space ↔
      Catalog.NamedIn space name := by
  rw [constantSpace?, Option.map_eq_some_iff]
  constructor
  · rintro ⟨qualified, hread, rfl⟩
    exact ⟨qualified.name, hread⟩
  · rintro ⟨short, hread⟩
    exact ⟨⟨space, short⟩, hread, rfl⟩

end Element

namespace ApiModule

/-- A type or a description of the module holds the name of the space and a dot. -/
def Mentions (m : ApiModule) (space : String) : Prop :=
  ∃ element ∈ m.elements, ∃ request ∈ element.requests, request.Mentions space

instance (m : ApiModule) (space : String) : Decidable (m.Mentions space) :=
  inferInstanceAs (Decidable (∃ element ∈ m.elements, _))

/-- The spaces that the constants of the module are named in. -/
def constantSpaces (m : ApiModule) : List String :=
  m.elements.filterMap Element.constantSpace?

end ApiModule

namespace Generation

open Prefix (namesOf)
open Rendering

/-! ## Constants -/

theorem only_registerElement_congr {first second : Catalog} {space : String}
    (honly : first.only space = second.only space) (element : Element) :
    (registerElement first element).only space =
      (registerElement second element).only space := by
  cases element with
  | constant name description => exact Catalog.only_registerFull_congr honly name _
  | _ => exact honly

theorem only_foldl_registerElement_congr {first second : Catalog} {space : String}
    (honly : first.only space = second.only space) (elements : List Element) :
    (elements.foldl registerElement first).only space =
      (elements.foldl registerElement second).only space := by
  induction elements generalizing first second with
  | nil => exact honly
  | cons element elements ih => exact ih (only_registerElement_congr honly element)

theorem only_foldl_registerElement_of_not {m : ApiModule} {space : String}
    (hnone : space ∉ m.constantSpaces) (catalog : Catalog) :
    (m.elements.foldl registerElement catalog).only space = catalog.only space := by
  apply List.foldlRecOn
    (motive := fun reached : Catalog => reached.only space = catalog.only space)
    m.elements registerElement rfl
  intro reached hreached element helement
  cases element with
  | constant name description =>
      have hother : ¬ Catalog.NamedIn space name := by
        intro hnamed
        have hspace : (Element.constant name description).constantSpace? = some space :=
          Element.constantSpace?_eq_some_iff.mpr hnamed
        exact hnone (List.mem_filterMap.mpr ⟨_, helement, hspace⟩)
      exact (Catalog.only_registerFull_of_not hother _).trans hreached
  | _ => exact hreached

/-- A module without constants in a space can be left out as far as the space goes. -/
theorem only_registerAll_insert {m : ApiModule} {space : String}
    (hnone : space ∉ m.constantSpaces) (before after : List ApiModule) :
    (registerAll (before ++ m :: after)).only space =
      (registerAll (before ++ after)).only space := by
  unfold registerAll
  rw [List.flatMap_append, List.flatMap_append, List.flatMap_cons, List.foldl_append,
    List.foldl_append, List.foldl_append]
  exact only_foldl_registerElement_congr (only_foldl_registerElement_of_not hnone _) _

theorem exists_mem_constantSpaces {modules : List ApiModule} {space : String}
    (hnames : namesOf (registerAll modules) space ≠ []) :
    ∃ m ∈ modules, space ∈ m.constantSpaces := by
  obtain ⟨name, hname⟩ := List.exists_mem_of_ne_nil _ hnames
  obtain ⟨m, hm, fullName, description, helement, hread⟩ :=
    registered_registerAll_iff.mp (Prefix.registered_of_mem_namesOf hname)
  exact ⟨m, hm, List.mem_filterMap.mpr ⟨_, helement,
    Element.constantSpace?_eq_some_iff.mpr ⟨name, hread⟩⟩⟩

/-! ## Rendering -/

theorem mem_requestsOf {rules : Stub.Rules} {modules : List ApiModule}
    {request : Reference.Request} (hrequest : request ∈ requestsOf rules modules) :
    ∃ m ∈ modules, ∃ element ∈ m.elements, request ∈ element.requests := by
  obtain ⟨m, hm, hrequest⟩ := List.mem_flatMap.mp hrequest
  obtain ⟨element, helement, hrequest⟩ := List.mem_flatMap.mp hrequest
  rw [Stub.sortElements, List.mem_mergeSort] at helement
  refine ⟨m, hm, element, List.mem_of_mem_filter helement, ?_⟩
  cases element with
  | function name description parameters returns =>
      simp only [Stub.Rules.requestsOf, Stub.Rules.functionRequests] at hrequest
      split at hrequest
      next => contradiction
      next => exact hrequest
  | _ => contradiction

theorem within_requestsOf {inside : String → Prop} {modules : List ApiModule}
    (hinside : ∀ m ∈ modules, ∀ space, m.Mentions space → inside space)
    (rules : Stub.Rules) : Reference.Within inside (requestsOf rules modules) := by
  intro request hrequest space hmentions
  obtain ⟨m, hm, element, helement, hmem⟩ := mem_requestsOf hrequest
  exact hinside m hm space ⟨element, helement, request, hmem, hmentions⟩

theorem local_renderModules {inside : String → Prop} (rules : Stub.Rules)
    {modules : List ApiModule}
    (hwithin : Reference.Within inside (requestsOf rules modules)) :
    Local inside (renderModules rules modules) := by
  induction modules with
  | nil => exact local_pure []
  | cons m rest ih =>
      rw [requestsOf, List.flatMap_cons] at hwithin
      have hrest : Reference.Within inside (requestsOf rules rest) :=
        fun request hrequest => hwithin request (List.mem_append_right _ hrequest)
      unfold renderModules
      by_cases hnone : (m.elements.filter Element.isRenderable).isEmpty = true
      · simp only [hnone, if_true]
        exact (local_report _).bind (fun _ => ih hrest)
      · simp only [hnone, Bool.false_eq_true, if_false]
        apply (Stub.local_declare rules
          (fun request hrequest => hwithin request (List.mem_append_left _ hrequest))).bind
        intro _
        exact (ih hrest).bind (fun _ => local_pure _)

theorem renderModules_append (rules : Stub.Rules) (first second : List ApiModule) :
    renderModules rules (first ++ second) = (do
      let before ← renderModules rules first
      let after ← renderModules rules second
      return before ++ after) := by
  induction first with
  | nil => simp [renderModules]
  | cons m rest ih =>
      rw [List.cons_append, renderModules, renderModules, ih]
      by_cases hnone : (m.elements.filter Element.isRenderable).isEmpty = true
      · simp [hnone]
      · simp [hnone]

/-! ## Composing -/

theorem compose_congr {first second : Registry} {rendered : RenderedModule}
    (honly : first.only rendered.source.space = second.only rendered.source.space)
    (options : Options) : compose first options rendered = compose second options rendered := by
  obtain ⟨hcatalog, hledger⟩ := Registry.only_eq_iff.mp honly
  have hfields : Stub.fieldsOf first rendered.source.space =
      Stub.fieldsOf second rendered.source.space := by
    rw [Stub.fieldsOf, ← Catalog.constantsOf_only, hcatalog, Catalog.constantsOf_only,
      Stub.fieldsOf]
  have hblocks : Stub.aliasBlocksOf first rendered.source.space =
      Stub.aliasBlocksOf second rendered.source.space := by
    rw [Stub.aliasBlocksOf, ← Ledger.aliasesOf_only, hledger, Ledger.aliasesOf_only,
      Stub.aliasBlocksOf]
  unfold compose
  simp only [hfields, hblocks]

end Generation
end ApiStubs
