import ApiStubs.Proofs.Generation.FinalState
import ApiStubs.Proofs.Generation.ModuleOrder

/-!
# Where a substituted alias is declared

An alias lies in the space of its constants, and the stub of that namespace is the only
one that declares it.  A namespace has a stub if one of its own modules has an element
that can be rendered; constants that other modules file under it do not make one, so
the alias of such constants may be written in a type list and declared nowhere.
-/

namespace ApiStubs
namespace Generation

open Rendering

/-- Some module of the namespace has an element that can be rendered. -/
def HasRenderable (modules : List ApiModule) (space : String) : Prop :=
  ∃ m ∈ modules, m.derivedSpace = space ∧
    ∃ element ∈ m.elements, element.isRenderable = true

theorem isRendered_iff {m : ApiModule} :
    isRendered m = true ↔ ∃ element ∈ m.elements, element.isRenderable = true := by
  simp [isRendered]

theorem hasRenderable_iff {modules : List ApiModule} {merged : ApiModule}
    (hmerged : merged ∈ order modules) :
    HasRenderable modules merged.space ↔ isRendered merged = true := by
  rw [isRendered_iff]
  simp only [ApiModule.mem_elements_of_mem_merge (mem_order.mp hmerged), HasRenderable]
  constructor
  · rintro ⟨m, hm, hspace, element, helement, hrenderable⟩
    exact ⟨element, ⟨m, hm, hspace, helement⟩, hrenderable⟩
  · rintro ⟨element, ⟨m, hm, hspace, helement⟩, hrenderable⟩
    exact ⟨m, hm, hspace, element, helement, hrenderable⟩

/-- The namespaces with a stub are those whose modules have something to render. -/
theorem mem_spaces_of_generate {modules : List ApiModule} {options : Options}
    {units : List StubUnit} (hunits : (generate modules options).result = .ok units)
    {space : String} : space ∈ units.map (·.space) ↔ HasRenderable modules space := by
  rw [spaces_of_generate_eq_ok hunits, List.mem_map]
  constructor
  · rintro ⟨merged, hmerged, rfl⟩
    obtain ⟨horder, hrendered⟩ := List.mem_filter.mp hmerged
    exact (hasRenderable_iff horder).mpr hrendered
  · intro hrenderable
    obtain ⟨m, hm, rfl, -⟩ := id hrenderable
    obtain ⟨merged, hmerged, hspace⟩ :=
      List.mem_map.mp (ApiModule.mem_spaces_merge.mpr (List.mem_map_of_mem hm))
    have horder := mem_order.mpr hmerged
    rw [← hspace, hasRenderable_iff horder] at hrenderable
    exact ⟨merged, List.mem_filter.mpr ⟨horder, hrenderable⟩, hspace⟩

theorem exists_aliasBlock_iff {registry : Registry} (hwell : registry.WellFormed)
    {a : Alias} (ha : a ∈ registry.ledger.aliases) {space : String} :
    (∃ block ∈ Stub.aliasBlocksOf registry space, block.name = a.fullName) ↔
      space = a.space := by
  constructor
  · rintro ⟨block, hblock, hname⟩
    obtain ⟨b, hb, rfl⟩ := List.mem_map.mp hblock
    obtain ⟨hb, hspace⟩ := Ledger.mem_aliasesOf.mp hb
    -- Both aliases have the text of the block as their full name, and it is read in one way.
    have hread := QualifiedName.ofText?_text (hwell.properAlias hb)
    have hread' := QualifiedName.ofText?_text (hwell.properAlias ha)
    have hsame : QualifiedName.text ⟨b.space, b.name⟩ = QualifiedName.text ⟨a.space, a.name⟩ :=
      hname
    rw [hsame, hread', Option.some.injEq, QualifiedName.mk.injEq] at hread
    rw [← hspace, hread.1]
  · rintro rfl
    exact ⟨_, List.mem_map_of_mem (Ledger.mem_aliasesOf.mpr ⟨ha, rfl⟩), rfl⟩

/-- An alias that a type list was given has its block in the stub of its own space and
in no other one, and there is such a stub if and only if a module of that namespace has
an element that can be rendered. -/
theorem alias_block_in_own_stub (modules : List ApiModule) (options : Options)
    {units : List StubUnit} (hunits : (generate modules options).result = .ok units) :
    ∃ rules, Stub.Rules.ofSettings options.settings options.isStrict = .ok rules ∧
      let resolutions :=
        Reference.resolutions (inferred modules) (requestsOf rules (order modules))
      ∀ resolution ∈ resolutions, ∀ pair ∈ resolution.substitution,
        ∃ qualified, QualifiedName.ofText? pair.2 = some qualified ∧
          (qualified.space ∈ units.map (·.space) ↔ HasRenderable modules qualified.space) ∧
          ∀ unit ∈ units, ∃ m fields blocks declarations,
            unit.content = textOf options m fields blocks declarations ∧
            ((∃ block ∈ blocks, block.name = pair.2) ↔ unit.space = qualified.space) := by
  have hspaces : ∀ {space}, space ∈ units.map (·.space) ↔ HasRenderable modules space :=
    mem_spaces_of_generate hunits
  obtain ⟨rules, rendered, reached, hrules, hrun, rfl⟩ :=
    rendered_of_generate_eq_ok hunits
  obtain ⟨-, hfold⟩ := finalRegistry_of_ok hrun
  have hwell : reached.registry.WellFormed := by
    rw [hfold]
    exact Reference.wellFormed_foldAll (wellFormed_inferred modules) _
  refine ⟨rules, hrules, ?_⟩
  intro resolutions resolution hresolution pair hpair
  have hheld := Reference.resolutions_heldBy _ _ resolution hresolution
  rw [← hfold] at hheld
  obtain ⟨a, ha, hname, -⟩ := hheld pair hpair
  refine ⟨⟨a.space, a.name⟩, ?_, hspaces, ?_⟩
  · rw [← hname]
    exact QualifiedName.ofText?_text (hwell.properAlias ha)
  · intro unit hunit
    obtain ⟨entry, -, rfl⟩ := List.mem_map.mp hunit
    rw [compose_eq hwell]
    refine ⟨_, _, _, _, rfl, ?_⟩
    rw [← hname]
    exact exists_aliasBlock_iff hwell ha

/-- The alias of two constants that the only module files under another space is
written in its function, and no stub declares it. -/
theorem alias_without_block :
    let net : ApiModule := ⟨"net", "", "", [
      .constant "gui.MODE_OFF" none, .constant "gui.MODE_ON" none,
      .function "net.set" none [⟨"mode", ["gui.MODE_OFF", "gui.MODE_ON"], none, none⟩] []]⟩
    let output : OutputSettings :=
      { generatorUrl := "", product := "", disabledDiagnostics := [] }
    let options : Options := { settings := { output }, version := "1.0" }
    ¬ HasRenderable [net] "gui" ∧
      (generate [net] options).result.toOption.map (fun units =>
        units.map (fun unit => (unit.space,
          Text.holds unit.content "gui.MODE|integer",
          Text.holds unit.content "---@alias"))) = some [("net", true, false)] := by
  intro net output options
  have horder : order [net] = [net] := List.mergeSort_of_pairwise (by decide)
  have hsorted : Stub.sortElements (net.elements.filter Element.isRenderable) = net.elements :=
    List.mergeSort_of_pairwise (by decide)
  constructor
  · rintro ⟨m, hm, hspace, -⟩
    rw [List.mem_singleton] at hm
    subst hm
    exact absurd hspace (by decide)
  · simp only [generate, finish, horder, renderModules, hsorted]
    decide +kernel

end Generation
end ApiStubs
