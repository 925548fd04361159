import ApiStubs.Proofs.Generation.ConstantFields
import ApiStubs.Proofs.Rendering.Lines

/-!
# The lines of a stub

A stub begins with a block comment, which holds the texts of its module.  Behind it the
descriptions of elements stand in comment lines only, so every other line is one of the
code lines of its elements or of its namespace, whatever the descriptions say.
-/

namespace ApiStubs

/-- The strings of the settings that get into the stubs behind their headers have no line
ends. -/
structure Settings.OneLine (settings : Settings) : Prop where
  classPrefix : Text.OneLine settings.output.classPrefix
  disabledDiagnostics : ∀ name ∈ settings.output.disabledDiagnostics, Text.OneLine name
  unknown : Text.OneLine settings.types.unknown
  generics : settings.types.generics.Values Text.OneLine
  types : settings.replacements.types.Values Text.OneLine
  names : settings.replacements.names.Values Text.OneLine
  localTypes : settings.replacements.localTypes.Values (Table.Values Text.OneLine)
  localNames : settings.replacements.localNames.Values (Table.Values Text.OneLine)

/-- All texts of the module but its title and the descriptions have no line ends. -/
structure ApiModule.OneLine (m : ApiModule) : Prop where
  space : Text.OneLine m.space
  elements : ∀ element ∈ m.elements, element.OneLine

theorem ApiModule.OneLine.derivedSpace {m : ApiModule} (honeLine : m.OneLine) :
    Text.OneLine m.derivedSpace := by
  unfold ApiModule.derivedSpace
  split
  next =>
    cases hhead : m.elements.head? with
    | none => decide
    | some element =>
        apply (honeLine.elements element (List.mem_of_head? hhead)).name.of_subset
        intro c hc
        rw [Option.map_some, Option.getD_some, firstSegment, String.toList_ofList] at hc
        exact (List.dropWhile_sublist _).mem ((List.takeWhile_sublist _).mem hc)
  next => exact honeLine.space

namespace Stub

theorem replacement_of_compileReplacement {entry : String × String}
    {replacement : TypeReplacement} (hcompile : compileReplacement entry = .ok replacement) :
    replacement.replacement = entry.2 := by
  obtain ⟨compiled, -, hreplacement⟩ := exists_ok_of_bind hcompile
  cases hreplacement
  rfl

theorem oneLine_of_ofSettings {settings : Settings} {strict : Bool} {rules : Rules}
    (honeLine : settings.OneLine) (hrules : Rules.ofSettings settings strict = .ok rules) :
    rules.OneLine := by
  obtain ⟨types, htypes, hrest⟩ := exists_ok_of_bind hrules
  obtain ⟨ignored, -, hresult⟩ := exists_ok_of_bind hrest
  obtain ⟨replacements, hreplacements, hmade⟩ := exists_ok_of_bind htypes
  cases hmade
  cases hresult
  refine ⟨honeLine.unknown, ?_, honeLine.localTypes, honeLine.names, honeLine.localNames,
    honeLine.generics⟩
  intro replacement hreplacement
  obtain ⟨entry, hentry, hcompile⟩ := mem_of_mapM_eq_ok hreplacements hreplacement
  rw [replacement_of_compileReplacement hcompile]
  exact honeLine.types entry hentry

/-- What a line of the stub of a namespace may be, behind its header. -/
inductive StubLine (rules : Rules) (space : String) (elements : List Element) : String → Prop
  | ofElement {line : String} (hline : DeclarationLine rules elements line) :
      StubLine rules space elements line
  | ofSpace : StubLine rules space elements (space ++ " = \x7b\x7d")
  | ofReturn : StubLine rules space elements ("return " ++ space)

variable {rules : Rules} {space : String} {elements : List Element}

theorem eachLine_of_declarations {text : String}
    (htext : Text.EachLine (DeclarationLine rules elements) text) :
    Text.EachLine (StubLine rules space elements) text :=
  htext.mono (fun _ hline => .ofElement hline)

theorem stubLine_of_comment (line : String) (hcomment : IsComment line) :
    StubLine rules space elements line :=
  .ofElement (.comment hcomment)

theorem eachLine_namespaceText {classPrefix body : String} {fields : List Field}
    (hclassStart : Text.OneLine classPrefix) (hspace : Text.OneLine space)
    (hfields : ∀ field ∈ fields, Text.OneLine field.name ∧ Text.OneLine field.type)
    (hbody : Text.EachLine (DeclarationLine rules elements) body) :
    Text.EachLine (StubLine rules space elements)
      (namespaceText classPrefix space (fieldsText fields) body) := by
  have hclass : Text.EachLine (StubLine rules space elements)
      ("---@class " ++ classPrefix ++ "." ++ space) := by
    refine Text.EachLine.of_oneLine ?_ (stubLine_of_comment _ ?_)
    · simp only [Text.oneLine_append]
      exact ⟨⟨⟨by decide, hclassStart⟩, by decide⟩, hspace⟩
    · exact ((IsComment.append (by decide) _).append _).append _
  have htable : Text.EachLine (StubLine rules space elements) (space ++ " = \x7b\x7d") :=
    Text.EachLine.of_oneLine (Text.oneLine_append.mpr ⟨hspace, by decide⟩) .ofSpace
  have hreturn : Text.EachLine (StubLine rules space elements) ("return " ++ space) :=
    Text.EachLine.of_oneLine (Text.oneLine_append.mpr ⟨by decide, hspace⟩) .ofReturn
  have hempty : StubLine rules space elements "" := .ofElement .empty
  have hinside : Text.EachLine (StubLine rules space elements) body :=
    eachLine_of_declarations hbody
  have hbehind := (htable.append_empty hempty hinside).append_empty hempty hreturn
  have htext := hclass.append (eachLine_fieldsText stubLine_of_comment hfields hbehind)
  have hhead : " = \x7b\x7d\n\n" = " = \x7b\x7d" ++ "\n\n" := by decide
  have hend : "\n\nreturn " = "\n\n" ++ "return " := by decide
  unfold namespaceText
  simpa only [hhead, hend, String.append_assoc, -String.reduceAppend] using htext

end Stub

namespace Generation

open Rendering

variable {rules : Stub.Rules} {modules : List ApiModule}

theorem ensures_renderModules (hrules : rules.OneLine)
    (hmodules : ∀ m ∈ modules, ∀ element ∈ m.elements, element.OneLine) :
    Ensures Registry.OneLine (renderModules rules modules) (fun rendered =>
      ∀ entry ∈ rendered, ∀ declaration ∈ entry.declarations,
        Text.EachLine (Stub.DeclarationLine rules entry.source.elements) declaration.text) := by
  induction modules with
  | nil => exact ensures_pure (by simp)
  | cons m rest ih =>
      have hrest := ih (fun other hother => hmodules other (List.mem_cons_of_mem m hother))
      unfold renderModules
      by_cases hnone : (m.elements.filter Element.isRenderable).isEmpty = true
      · simp only [hnone, if_true]
        exact (ensures_report _).bind (fun _ _ => hrest)
      · simp only [hnone, Bool.false_eq_true, if_false]
        have hpart : ∀ element ∈ Stub.sortElements (m.elements.filter Element.isRenderable),
            element ∈ m.elements ∧ element.OneLine := by
          intro element hmem
          have helement := List.mem_of_mem_filter (List.mem_mergeSort.mp hmem)
          exact ⟨helement, hmodules m List.mem_cons_self element helement⟩
        apply (Stub.ensures_declare hrules hpart).bind
        intro declarations hdeclarations
        apply hrest.bind
        intro rendered hrendered
        exact ensures_pure (List.forall_mem_cons.mpr ⟨hdeclarations, hrendered⟩)

theorem oneLine_inferred (hmodules : ∀ m ∈ modules, m.OneLine) :
    (inferred modules).OneLine where
  wellFormed := wellFormed_inferred modules
  names := by
    intro space name hregistered
    rw [inferred_catalog, registered_order_iff] at hregistered
    obtain ⟨m, hm, fullName, description, helement, hread⟩ := hregistered
    obtain ⟨-, rfl⟩ := QualifiedName.ofText?_eq_some_iff.mp hread
    exact oneLine_qualify.mp ((hmodules m hm).elements _ helement)

theorem oneLine_of_mem_order (hmodules : ∀ m ∈ modules, m.OneLine) {merged : ApiModule}
    (hmerged : merged ∈ order modules) :
    Text.OneLine merged.space ∧ ∀ element ∈ merged.elements, element.OneLine := by
  constructor
  · obtain ⟨m, hm, hspace⟩ := List.mem_map.mp (space_of_mem_order hmerged)
    rw [← hspace]
    exact (hmodules m hm).derivedSpace
  · intro element helement
    obtain ⟨m, hm, helement⟩ := exists_mem_elements_order.mp ⟨merged, hmerged, helement⟩
    exact (hmodules m hm).elements element helement

theorem eachLine_contentOf {options : Options} {m : ApiModule} {fields : List Stub.Field}
    {body : String} (hclassStart : Text.OneLine options.settings.output.classPrefix)
    (hspace : Text.OneLine m.space)
    (hfields : ∀ field ∈ fields, Text.OneLine field.name ∧ Text.OneLine field.type)
    (hbody : Text.EachLine (Stub.DeclarationLine rules m.elements) body) :
    Text.EachLine (Stub.StubLine rules m.space m.elements)
      (contentOf options m fields body) := by
  unfold contentOf
  split
  next => exact Stub.eachLine_namespaceText hclassStart hspace hfields hbody
  next => exact Stub.eachLine_of_declarations hbody

theorem lines_of_compose {registry : Registry} (hregistry : registry.OneLine)
    {options : Options} (hsettings : options.settings.OneLine) {rendered : RenderedModule}
    (hspace : Text.OneLine rendered.source.space)
    (hdeclarations : ∀ declaration ∈ rendered.declarations,
      Text.EachLine (Stub.DeclarationLine rules rendered.source.elements) declaration.text) :
    ∃ rest, (compose registry options rendered).content =
        (headerOf options rendered.source).text ++ "\n" ++ rest ∧
      Text.EachLine (Stub.StubLine rules rendered.source.space rendered.source.elements)
        rest := by
  have hblocks : ∀ block ∈ Stub.aliasBlocksOf registry rendered.source.space,
      Text.EachLine Stub.IsComment block.text := by
    intro block hblock
    obtain ⟨a, ha, rfl⟩ := List.mem_map.mp hblock
    obtain ⟨hname, hmembers⟩ :=
      hregistry.fullName_and_members (Ledger.mem_aliasesOf.mp ha).1
    apply Stub.AliasBlock.eachLine hname
    intro member hmember
    exact hmembers member (Text.mem_sortByUnits.mp hmember)
  have hfields : ∀ field ∈ Stub.fieldsOf registry rendered.source.space,
      Text.OneLine field.name ∧ Text.OneLine field.type := by
    intro field hfield
    obtain ⟨constant, hconstant, rfl⟩ := List.mem_map.mp hfield
    have hprimitive : ∀ primitive : Primitive, Text.OneLine primitive.name := by
      intro primitive
      cases primitive <;> decide
    refine ⟨(hregistry.names constant.space constant.name ?_).2, hprimitive _⟩
    exact ⟨constant, List.mem_of_mem_filter hconstant, rfl, rfl⟩
  have hbody := Stub.eachLine_body hblocks hdeclarations
  have hcontent := eachLine_contentOf hsettings.classPrefix hspace hfields hbody
  have hdiagnostics : Text.EachLine
      (Stub.StubLine rules rendered.source.space rendered.source.elements)
      (Stub.diagnostics options.settings.output.disabledDiagnostics) :=
    (Stub.eachLine_diagnostics hsettings.disabledDiagnostics).mono Stub.stubLine_of_comment
  have hempty : Text.EachLine
      (Stub.StubLine rules rendered.source.space rendered.source.elements) "" :=
    Text.EachLine.of_oneLine (by decide) (.ofElement .empty)
  refine ⟨_, ?_, hempty.append ((hdiagnostics.append_empty (.ofElement .empty) hcontent).append
    hempty)⟩
  -- The first line end closes the header, so the rest begins with an empty line.
  have hbreak : "\n\n" = "\n" ++ "\n" := by decide
  rw [compose]
  simp only [headerOf, contentOf, hbreak, String.append_assoc, String.append_empty,
    String.empty_append, -String.reduceAppend]

/-- Descriptions are arbitrary, and all else that a stub is made of is free of line ends.
Then each line behind the header of a stub is empty, a comment, or a code line of its
namespace or of an element of the namespace. -/
theorem lines_of_generate (modules : List ApiModule) (options : Options)
    (hmodules : ∀ m ∈ modules, m.OneLine) (hsettings : options.settings.OneLine)
    {units : List StubUnit} (hunits : (generate modules options).result = .ok units) :
    ∃ rules, Stub.Rules.ofSettings options.settings options.isStrict = .ok rules ∧
      ∀ unit ∈ units, ∃ m ∈ order modules, m.space = unit.space ∧
        ∃ rest, unit.content = (headerOf options m).text ++ "\n" ++ rest ∧
          ∀ line ∈ Text.lines rest, Stub.StubLine rules unit.space m.elements line := by
  obtain ⟨rules, rendered, reached, hrules, hrun, rfl⟩ := rendered_of_generate_eq_ok hunits
  have horder : ∀ m ∈ order modules, ∀ element ∈ m.elements, element.OneLine :=
    fun m hm => (oneLine_of_mem_order hmodules hm).2
  have hensures := ensures_renderModules
    (Stub.oneLine_of_ofSettings hsettings hrules) horder
    ⟨inferred modules, openingEvents modules options⟩ (oneLine_inferred hmodules)
  rw [hrun] at hensures
  obtain ⟨hregistry, hrendered⟩ := hensures
  refine ⟨rules, hrules, ?_⟩
  intro unit hunit
  obtain ⟨entry, hentry, rfl⟩ := List.mem_map.mp hunit
  have hsource := source_mem_of_renderModules hrun hentry
  refine ⟨entry.source, hsource, rfl, ?_⟩
  exact lines_of_compose hregistry hsettings (oneLine_of_mem_order hmodules hsource).1
    (hrendered rendered rfl entry hentry)

/-- Descriptions that go on with a statement on a new line, each in another place, do not
get it into the stub as a line. -/
theorem lines_of_generate_of_statements :
    let text := some "On.\nos.exit()"
    let gui : ApiModule := ⟨"gui", "GUI", "\nos.exit()", [
      .constant "gui.ON" text, .variable "gui.root" text,
      .function "gui.show" text [⟨"mode", ["constant"], text, none⟩]
        [⟨"done", ["boolean"], text, none⟩]]⟩
    let options : Options := { settings := {}, version := "1.0" }
    ∃ units, (generate [gui] options).result = .ok units ∧ units.length = 1 ∧
      ∀ unit ∈ units, ∃ rest, unit.content = (headerOf options gui).text ++ "\n" ++ rest ∧
        "os.exit()" ∉ Text.lines rest := by
  intro text gui options
  have hcompile : Stub.PatternsCompile options.settings := by decide
  have hlenient : options.isStrict = false := rfl
  obtain ⟨units, hunits⟩ := exists_units_of_lenient [gui] hlenient hcompile
  have hsettings : options.settings.OneLine := by
    constructor <;> decide
  have hgui : gui.OneLine := by
    refine ⟨by decide, ?_⟩
    intro element helement
    simp only [gui, List.mem_cons, List.not_mem_nil, or_false] at helement
    rcases helement with rfl | rfl | rfl
    · exact (by decide : Text.OneLine "gui.ON")
    · exact (by decide : Text.OneLine "gui.root")
    · refine ⟨by decide, ?_⟩
      intro parameter hparameter
      simp only [List.cons_append, List.nil_append, List.mem_cons, List.not_mem_nil,
        or_false] at hparameter
      rcases hparameter with rfl | rfl
      · exact ⟨by decide, by decide⟩
      · exact ⟨by decide, by decide⟩
  obtain ⟨rules, -, hlines⟩ :=
    lines_of_generate [gui] options (List.forall_mem_singleton.mpr hgui) hsettings hunits
  have hlength := congrArg List.length (spaces_of_generate_eq_ok hunits)
  have horder : order [gui] = [gui] := List.mergeSort_of_pairwise (by decide)
  rw [horder, List.length_map] at hlength
  refine ⟨units, hunits, hlength.trans (by decide), ?_⟩
  intro unit hunit
  obtain ⟨m, hm, -, rest, hcontent, hrest⟩ := hlines unit hunit
  rw [horder, List.mem_singleton] at hm
  subst hm
  refine ⟨rest, hcontent, ?_⟩
  intro hstatement
  have hline := hrest _ hstatement
  generalize htext : "os.exit()" = line at hline
  have hends := congrArg (fun text => text.toList.getLast?) htext
  have hstarts := congrArg (fun text => text.toList.head?) htext
  cases hline with
  | ofElement hline =>
      cases hline with
      | empty => contradiction
      | comment hcomment =>
          subst htext
          exact absurd hcomment (by decide)
      | ofVariable => simp at hends
      | ofClass => simp at hends
      | ofFunction => simp at hstarts
  | ofSpace => simp at hends
  | ofReturn => simp at hstarts

end Generation
end ApiStubs
