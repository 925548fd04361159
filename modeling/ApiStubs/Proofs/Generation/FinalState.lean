import ApiStubs.Proofs.Generation.Strictness
import ApiStubs.Proofs.Stub.Members

/-!
# Stubs show the end of a run

Rendering one namespace changes the aliases and the constants of others, so a
stub that was composed on the way could miss something.  All of them are
composed from the registry in which rendering ends, and that one is given by the
type lists of all modules in their order.
-/

namespace ApiStubs
namespace Generation

open Rendering

/-- The registry in which the rendering of modules ends. -/
def finalRegistry (rules : Stub.Rules) (modules : List ApiModule) (options : Options) :
    Registry :=
  (outcome (renderModules rules (order modules))
    ⟨inferred modules, openingEvents modules options⟩).2.registry

theorem finalRegistry_of_ok {rules : Stub.Rules} {modules : List ApiModule}
    {options : Options} {rendered : List RenderedModule} {reached : Session}
    (hrun : outcome (renderModules rules (order modules))
      ⟨inferred modules, openingEvents modules options⟩ = (.ok rendered, reached)) :
    finalRegistry rules modules options = reached.registry ∧
      reached.registry =
        Reference.foldAll (inferred modules) (requestsOf rules (order modules)) := by
  obtain ⟨served, -, hregistry, hdone⟩ :=
    serves_renderModules rules (order modules)
      ⟨inferred modules, openingEvents modules options⟩
  rw [hrun] at hregistry hdone
  rw [finalRegistry, hrun, ← hdone rendered rfl]
  exact ⟨rfl, hregistry⟩

/-! ## The text of a stub -/

def headerOf (options : Options) (m : ApiModule) : Stub.Header where
  generatorUrl := options.settings.output.generatorUrl
  product := options.settings.output.product
  version := options.version
  title := m.brief
  description := m.description

/-- The body of a stub, and around it the class of a namespace with its fields. -/
def contentOf (options : Options) (m : ApiModule) (fields : List Stub.Field)
    (body : String) : String :=
  if declaresNamespace m then
    Stub.namespaceText options.settings.output.classPrefix m.space
      (Stub.fieldsText fields) body
  else body

/-- The text of a stub with the fields and the aliases of its namespace. -/
def textOf (options : Options) (m : ApiModule) (fields : List Stub.Field)
    (blocks : List Stub.AliasBlock) (declarations : List Stub.Declaration) : String :=
  (headerOf options m).text ++ "\n\n" ++
    Stub.diagnostics options.settings.output.disabledDiagnostics ++ "\n\n" ++
    contentOf options m fields
      (Stub.aliasesText blocks ++ Stub.declared blocks declarations) ++ "\n"

theorem compose_eq {registry : Registry} (hwell : registry.WellFormed)
    (options : Options) (rendered : RenderedModule) :
    compose registry options rendered =
      ⟨rendered.source.space,
        textOf options rendered.source
          (Stub.fieldsOf registry rendered.source.space)
          (Stub.aliasBlocksOf registry rendered.source.space)
          rendered.declarations⟩ := by
  have hmembers : ∀ block ∈ Stub.aliasBlocksOf registry rendered.source.space,
      block.members ≠ [] := Stub.aliasBlocksOf_members_ne hwell
  rw [compose, textOf, ← Stub.body_aliasesText hmembers rendered.declarations]
  rfl

/-! ## What a stub shows -/

theorem fieldsOf_foldAll {registry : Registry} (hwell : registry.WellFormed)
    (hinteger : ∀ constant ∈ registry.catalog.constants, constant.primitive = .integer)
    (requests : List Reference.Request) (space : String) :
    Stub.fieldsOf (Reference.foldAll registry requests) space =
      (registry.catalog.constantsOf space).map (fun constant =>
        ⟨constant.name,
          (Reference.settled (Reference.resolutions registry requests)
            constant.fullName).name,
          constant.description⟩) := by
  unfold Stub.fieldsOf Catalog.constantsOf
  rw [Reference.foldAll_constants hwell, List.filter_map, List.map_map]
  have hspaces : ((fun constant : Constant => decide (constant.space = space)) ∘
      fun constant : Constant => constant.withPrimitive
        (Reference.settled (Reference.resolutions registry requests)
          constant.fullName)) = fun constant => decide (constant.space = space) := by
    funext constant
    simp
  rw [hspaces]
  apply List.map_congr_left
  intro constant hmem
  have hdefault := hinteger constant (List.mem_filter.mp hmem).1
  simp [Constant.withPrimitive, hdefault]

/-- Every stub is composed from the state in which the whole run ends.  Its blocks
are the aliases that are there in the end, each constant that a type list has
replaced stands in the block of its alias, and each field has the type that the
first type list replacing the constant, with a fallback other than the default,
has settled. -/
theorem units_show_final_state (modules : List ApiModule) (options : Options)
    {units : List StubUnit} (hunits : (generate modules options).result = .ok units) :
    ∃ rules, Stub.Rules.ofSettings options.settings options.isStrict = .ok rules ∧
      finalRegistry rules modules options =
        Reference.foldAll (inferred modules) (requestsOf rules (order modules)) ∧
      let resolutions :=
        Reference.resolutions (inferred modules) (requestsOf rules (order modules))
      ∀ unit ∈ units, ∃ m ∈ order modules, ∃ fields blocks declarations,
        m.space = unit.space ∧
        unit.content = textOf options m fields blocks declarations ∧
        Stub.Shows (finalRegistry rules modules options).ledger unit.space blocks ∧
        (∀ resolution ∈ resolutions, ∀ pair ∈ resolution.substitution,
          ∃ qualified, QualifiedName.ofText? pair.2 = some qualified ∧
            (qualified.space = unit.space →
              ∃ block ∈ blocks, block.name = pair.2 ∧ pair.1 ∈ block.members)) ∧
        fields = ((registerAll (order modules)).constantsOf unit.space).map
          (fun constant =>
            ⟨constant.name, (Reference.settled resolutions constant.fullName).name,
              constant.description⟩) := by
  obtain ⟨rules, rendered, reached, hrules, hrun, rfl⟩ :=
    rendered_of_generate_eq_ok hunits
  obtain ⟨hfinal, hfold⟩ := finalRegistry_of_ok hrun
  have hinferred := wellFormed_inferred modules
  have hwell : reached.registry.WellFormed := by
    rw [hfold]
    exact Reference.wellFormed_foldAll hinferred _
  refine ⟨rules, hrules, hfinal.trans hfold, ?_⟩
  intro resolutions unit hunit
  obtain ⟨entry, hentry, rfl⟩ := List.mem_map.mp hunit
  have hshows := Stub.shows_aliasBlocksOf hwell entry.source.space
  rw [compose_eq hwell, hfinal]
  have hsource : entry.source ∈ (order modules).filter isRendered := by
    rw [← sources_of_renderModules hrun]
    exact List.mem_map_of_mem hentry
  refine ⟨entry.source, (List.mem_filter.mp hsource).1, _, _, entry.declarations, rfl,
    rfl, hshows, ?_, ?_⟩
  · intro resolution hresolution
    apply hshows.replaced hwell
    rw [hfold]
    exact Reference.resolutions_heldBy _ _ resolution hresolution
  · rw [hfold, fieldsOf_foldAll hinferred, inferred_catalog]
    rw [inferred_catalog]
    exact registerAll_integer (order modules)

/-- A function of a namespace rendered later makes the alias, and with its string
the type of the constants; the stub rendered before it shows both. -/
theorem units_show_final_state_of_later_function :
    let gui : ApiModule := ⟨"gui", "GUI", "", [
      .constant "gui.PROP" none, .constant "gui.PROP_COLOR" none]⟩
    let net : ApiModule := ⟨"net", "Net", "", [
      .function "net.set" none
        [⟨"prop", ["gui.PROP", "gui.PROP_COLOR", "string"], none, none⟩] []]⟩
    let options : Options := { settings := {}, version := "1.0" }
    (inferred [gui, net]).ledger.aliases = [] ∧
      ∃ units, (generate [gui, net] options).result = .ok units ∧
        ∃ unit ∈ units, unit.space = "gui" ∧ ∃ m fields blocks declarations,
          unit.content = textOf options m fields blocks declarations ∧
          fields = [⟨"PROP", "string", ""⟩, ⟨"PROP_COLOR", "string", ""⟩] ∧
          ∃ block ∈ blocks, block.name = "gui.PROP" ∧
            "gui.PROP_COLOR" ∈ block.members := by
  intro gui net options
  have hcompile : Stub.PatternsCompile options.settings := by decide
  have horder : order [gui, net] = [gui, net] := List.mergeSort_of_pairwise (by decide)
  have hinferred : inferred [gui, net] =
      ⟨⟨[⟨"gui", "PROP", "", .integer⟩, ⟨"gui", "PROP_COLOR", "", .integer⟩]⟩, {}⟩ := by
    rw [inferred, horder]
    decide +kernel
  have hagree : Options.Agree { options with strict := some true } options := ⟨rfl, rfl⟩
  obtain ⟨units, hunits, -⟩ := strict_result_eq [gui, net] hagree rfl rfl hcompile
  obtain ⟨rules, hrules, -, hshows⟩ := units_show_final_state [gui, net] options hunits
  have hrequests : requestsOf rules [gui, net] =
      [⟨["gui.PROP", "gui.PROP_COLOR", "string"], none⟩] := by
    have hgui : Stub.sortElements (gui.elements.filter Element.isRenderable) =
        gui.elements := List.mergeSort_of_pairwise (by decide)
    have hnet : Stub.sortElements (net.elements.filter Element.isRenderable) =
        net.elements := List.mergeSort_singleton _
    rw [requestsOf, List.flatMap_cons, List.flatMap_singleton, hgui, hnet]
    cases hrules
    rfl
  have hspaces := spaces_of_generate_eq_ok hunits
  rw [horder] at hspaces hshows
  rw [hrequests, hinferred] at hshows
  have hgui : "gui" ∈ units.map (·.space) := by
    rw [hspaces]
    decide
  obtain ⟨unit, hunit, hspace⟩ := List.mem_map.mp hgui
  refine ⟨by rw [hinferred], units, hunits, unit, hunit, hspace, ?_⟩
  obtain ⟨m, -, fields, blocks, declarations, -, hcontent, -, hreplaced, hfields⟩ :=
    hshows unit hunit
  rw [hspace] at hreplaced hfields
  refine ⟨m, fields, blocks, declarations, hcontent, ?_, ?_⟩
  · rw [hfields]
    decide +kernel
  · obtain ⟨qualified, hread, hblock⟩ := hreplaced
      ⟨⟨["gui.PROP", "gui.PROP_COLOR", "string"], none⟩,
        [("gui.PROP", "gui.PROP"), ("gui.PROP_COLOR", "gui.PROP")]⟩ (by decide +kernel)
      ("gui.PROP_COLOR", "gui.PROP") (by decide)
    have hqualified : QualifiedName.ofText? "gui.PROP" = some ⟨"gui", "PROP"⟩ := by
      decide
    rw [hqualified, Option.some.injEq] at hread
    subst hread
    exact hblock rfl

end Generation
end ApiStubs
