import ApiStubs.Proofs.Generation.FinalState
import ApiStubs.Proofs.Generation.ModuleOrder
import ApiStubs.Proofs.Reference.Registrations
import ApiStubs.Proofs.Stub.Fields

/-!
# The fields of a namespace

Constants are filed under the space of their name, whichever module they come from, and
the stub of a namespace has a class with their fields if an element of its own modules
is named like it.  Such a class has a field for each constant of the space and no other
one, in the order of the catalog and with the types in which the run ends.
-/

namespace ApiStubs
namespace Generation

open Prefix (namesOf)
open Rendering

/-- Some module of the namespace has an element whose name begins with it. -/
def NamesItself (modules : List ApiModule) (space : String) : Prop :=
  ∃ m ∈ modules, m.derivedSpace = space ∧
    ∃ element ∈ m.elements, Text.startsWith element.name space = true

theorem declaresNamespace_iff {modules : List ApiModule} {merged : ApiModule}
    (hmerged : merged ∈ order modules) :
    declaresNamespace merged = true ↔ NamesItself modules merged.space := by
  simp only [declaresNamespace, List.any_eq_true,
    ApiModule.mem_elements_of_mem_merge (mem_order.mp hmerged)]
  constructor
  · rintro ⟨element, ⟨m, hm, hspace, helement⟩, hstart⟩
    exact ⟨m, hm, hspace, element, helement, hstart⟩
  · rintro ⟨m, hm, hspace, element, helement, hstart⟩
    exact ⟨element, ⟨m, hm, hspace, helement⟩, hstart⟩

theorem compose_of_declaresNamespace (registry : Registry) (options : Options)
    {rendered : RenderedModule} (hdeclares : declaresNamespace rendered.source = true)
    {unit : StubUnit} (hunit : compose registry options rendered = unit) :
    ∃ before after : String, unit.content =
      before ++ "---@class " ++ options.settings.output.classPrefix ++ "." ++
        unit.space ++ "\n" ++
        String.join ((Stub.fieldsOf registry unit.space).map Stub.Field.text) ++
        unit.space ++ " = {}\n\n" ++ after := by
  refine ⟨(headerOf options rendered.source).text ++ "\n\n" ++
    Stub.diagnostics options.settings.output.disabledDiagnostics ++ "\n\n",
    Stub.body (Stub.aliasesText (Stub.aliasBlocksOf registry unit.space))
      rendered.declarations ++ "\n\nreturn " ++ unit.space ++ "\n", ?_⟩
  have hspace : unit.space = rendered.source.space := by
    rw [← hunit]
    rfl
  rw [hspace, ← hunit, compose, if_pos hdeclares, Stub.namespaceText_eq,
    ← Stub.fieldsText_eq]
  simp only [headerOf, String.append_assoc]

theorem registered_order_iff {modules : List ApiModule} {space name : String} :
    (registerAll (order modules)).Registered space name ↔
      ∃ m ∈ modules, ∃ fullName description,
        Element.constant fullName description ∈ m.elements ∧
          QualifiedName.ofText? fullName = some ⟨space, name⟩ := by
  rw [registered_registerAll_iff]
  constructor
  · rintro ⟨merged, hmerged, fullName, description, helement, hread⟩
    obtain ⟨m, hm, helement⟩ := exists_mem_elements_order.mp ⟨merged, hmerged, helement⟩
    exact ⟨m, hm, fullName, description, helement, hread⟩
  · rintro ⟨m, hm, fullName, description, helement, hread⟩
    obtain ⟨merged, hmerged, helement⟩ := exists_mem_elements_order.mpr ⟨m, hm, helement⟩
    exact ⟨merged, hmerged, fullName, description, helement, hread⟩

theorem namesOf_finalRegistry {rules : Stub.Rules} {modules : List ApiModule}
    {options : Options} {rendered : List RenderedModule} {reached : Session}
    (hrun : outcome (renderModules rules (order modules))
      ⟨inferred modules, openingEvents modules options⟩ = (.ok rendered, reached))
    (space : String) :
    namesOf (finalRegistry rules modules options).catalog space =
      namesOf (registerAll (order modules)) space := by
  obtain ⟨hfinal, hfold⟩ := finalRegistry_of_ok hrun
  rw [hfinal, hfold, Reference.namesOf_foldAll, inferred_catalog]

/-- In the stub of a namespace that an element of its modules is named like, the class
of the namespace has the field of every constant that is registered under it in the
run, and no other one: each once, behind the comment of its description, in the order
of the catalog and with the type in which the run ends. -/
theorem class_fields_of_generate (modules : List ApiModule) (options : Options)
    {units : List StubUnit} (hunits : (generate modules options).result = .ok units) :
    ∃ rules, Stub.Rules.ofSettings options.settings options.isStrict = .ok rules ∧
      ∀ unit ∈ units, NamesItself modules unit.space →
        ∃ (fields : List Stub.Field) (before after : String),
          unit.content =
            before ++ "---@class " ++ options.settings.output.classPrefix ++ "." ++
              unit.space ++ "\n" ++ String.join (fields.map Stub.Field.text) ++
              unit.space ++ " = {}\n\n" ++ after ∧
          fields = Stub.fieldsOf (finalRegistry rules modules options) unit.space ∧
          fields.map (·.name) = namesOf (registerAll (order modules)) unit.space ∧
          (fields.map (·.name)).Nodup ∧
          ∀ name, name ∈ fields.map (·.name) ↔
            ∃ m ∈ modules, ∃ fullName description,
              Element.constant fullName description ∈ m.elements ∧
                QualifiedName.ofText? fullName = some ⟨unit.space, name⟩ := by
  obtain ⟨rules, rendered, reached, hrules, hrun, rfl⟩ :=
    rendered_of_generate_eq_ok hunits
  refine ⟨rules, hrules, ?_⟩
  intro unit hunit hnames
  obtain ⟨entry, hentry, hcompose⟩ := List.mem_map.mp hunit
  have hspace : unit.space = entry.source.space := by
    rw [← hcompose]
    rfl
  have hsource := source_mem_of_renderModules hrun hentry
  rw [hspace, ← declaresNamespace_iff hsource] at hnames
  obtain ⟨before, after, hcontent⟩ := compose_of_declaresNamespace _ _ hnames hcompose
  rw [← (finalRegistry_of_ok hrun).1] at hcontent
  have hfields : (Stub.fieldsOf (finalRegistry rules modules options) unit.space).map
      (·.name) = namesOf (registerAll (order modules)) unit.space := by
    rw [← namesOf_finalRegistry hrun, Stub.fieldsOf, List.map_map]
    rfl
  refine ⟨_, before, after, hcontent, rfl, hfields, ?_, ?_⟩
  · rw [hfields]
    exact (distinct_registerAll (order modules)).nodup_namesOf unit.space
  · intro name
    rw [hfields, ← Catalog.registered_iff_mem_namesOf, registered_order_iff]

/-- The class of a namespace has a field for its own constant, and behind it one for
the constant that another module files under it. -/
theorem class_fields_of_generate_of_two_modules :
    let gui : ApiModule := ⟨"gui", "GUI", "", [.constant "gui.MODE_ON" (some "On.")]⟩
    let net : ApiModule := ⟨"net", "Net", "", [.constant "gui.DEPTH" none]⟩
    let options : Options := { settings := {}, version := "1.0" }
    NamesItself [gui, net] "gui" ∧
      ∃ units, (generate [gui, net] options).result = .ok units ∧
        ∃ unit ∈ units, unit.space = "gui" ∧ ∃ before after : String,
          unit.content = before ++
            ("---@class api.gui\n" ++ "---On.\n---@field MODE_ON integer\n" ++
              "---@field DEPTH integer\n" ++ "gui = {}\n\n") ++ after := by
  intro gui net options
  have hnames : NamesItself [gui, net] "gui" :=
    ⟨gui, by simp, by decide, .constant "gui.MODE_ON" (some "On."), by simp [gui], by decide⟩
  have hcompile : Stub.PatternsCompile options.settings := by decide
  have horder : order [gui, net] = [gui, net] := List.mergeSort_of_pairwise (by decide)
  have hagree : Options.Agree { options with strict := some true } options := ⟨rfl, rfl⟩
  obtain ⟨units, hunits, -⟩ := strict_result_eq [gui, net] hagree rfl rfl hcompile
  obtain ⟨rules, hrules, hfields⟩ := class_fields_of_generate [gui, net] options hunits
  have hspaces := spaces_of_generate_eq_ok hunits
  rw [horder] at hspaces
  have hgui : "gui" ∈ units.map (·.space) := by
    rw [hspaces]
    decide
  obtain ⟨unit, hunit, hspace⟩ := List.mem_map.mp hgui
  obtain ⟨fields, before, after, hcontent, hfields, -⟩ :=
    hfields unit hunit (by rw [hspace]; exact hnames)
  have hvalue : Stub.fieldsOf (finalRegistry rules [gui, net] options) "gui" =
      [⟨"MODE_ON", "integer", "On."⟩, ⟨"DEPTH", "integer", ""⟩] := by
    cases hrules
    unfold finalRegistry inferred
    rw [horder]
    decide +kernel
  have hsection : "---@class " ++ options.settings.output.classPrefix ++ "." ++ "gui" ++
      "\n" ++ String.join ([⟨"MODE_ON", "integer", "On."⟩, ⟨"DEPTH", "integer", ""⟩].map
        Stub.Field.text) ++ "gui" ++ " = {}\n\n" =
      "---@class api.gui\n" ++ "---On.\n---@field MODE_ON integer\n" ++
        "---@field DEPTH integer\n" ++ "gui = {}\n\n" := by decide +kernel
  rw [hspace] at hfields hcontent
  rw [hfields, hvalue] at hcontent
  refine ⟨hnames, units, hunits, unit, hunit, hspace, before, after, ?_⟩
  rw [hcontent, ← hsection]
  simp only [String.append_assoc]

/-- Two ways for a field line not to be there exactly once: a stub that nothing in its
modules is named like has no class to hold it, and a class that a module declares can
have the same line. -/
theorem field_line_missing_or_repeated :
    let net : ApiModule := ⟨"net", "", "", [.constant "gui.DEPTH" none]⟩
    let plain : ApiModule := ⟨"gui", "", "", [.variable "depth" none]⟩
    let nodes : ApiModule := ⟨"gui", "", "", [
      .classType "gui.node" ⟨[("DEPTH", "integer")]⟩ false {}]⟩
    let output : OutputSettings :=
      { generatorUrl := "", product := "", disabledDiagnostics := [] }
    let options : Options := { settings := { output }, version := "1.0" }
    let fields (m : ApiModule) : Option (List (String × Nat)) :=
      (generate [m, net] options).result.toOption.map (fun units =>
        (units.filter (·.space = "gui")).map (fun unit =>
          (unit.space, (Text.lines unit.content).count "---@field DEPTH integer")))
    (namesOf (registerAll (order [plain, net])) "gui" = ["DEPTH"] ∧
        fields plain = some [("gui", 0)]) ∧
      namesOf (registerAll (order [nodes, net])) "gui" = ["DEPTH"] ∧
        fields nodes = some [("gui", 2)] := by
  intro net plain nodes output options fields
  have hplain : order [plain, net] = [plain, net] := List.mergeSort_of_pairwise (by decide)
  have hnodes : order [nodes, net] = [nodes, net] := List.mergeSort_of_pairwise (by decide)
  simp only [fields, generate]
  rw [hplain, hnodes]
  refine ⟨⟨?_, ?_⟩, ?_, ?_⟩
  · decide
  · decide +kernel
  · decide
  · decide +kernel

end Generation
end ApiStubs
