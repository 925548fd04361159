import ApiStubs.Proofs.Generation.Locality
import ApiStubs.Proofs.Generation.ModuleOrder

/-!
# Unrelated modules

All modules share one registry.  A module whose constants lie in spaces of their own,
which no other module mentions or lives in, and which mentions no space of theirs,
changes the registry only at its own spaces.  The stubs of the other modules are then
the same with it as without it.
-/

namespace ApiStubs
namespace Generation

open Prefix (namesOf)
open Rendering

/-- The module shares no namespace with the others, which neither live in the spaces of
its constants nor mention them, and it mentions no space of a constant of theirs. -/
structure Unrelated (m : ApiModule) (others : List ApiModule) : Prop where
  ownSpace : ∀ other ∈ others, other.derivedSpace ≠ m.derivedSpace
  otherSpaces : ∀ other ∈ others, other.derivedSpace ∉ m.constantSpaces
  unmentioned : ∀ other ∈ others, ∀ space ∈ m.constantSpaces, ¬ other.Mentions space
  mentionsNone : ∀ other ∈ others, ∀ space ∈ other.constantSpaces, ¬ m.Mentions space

theorem exists_constantSpaces_of_mem_order {modules : List ApiModule} {merged : ApiModule}
    (hmerged : merged ∈ order modules) {space : String}
    (hspace : space ∈ merged.constantSpaces) : ∃ m ∈ modules, space ∈ m.constantSpaces := by
  obtain ⟨element, helement, hspace⟩ := List.mem_filterMap.mp hspace
  obtain ⟨m, hm, helement⟩ := exists_mem_elements_order.mp ⟨merged, hmerged, helement⟩
  exact ⟨m, hm, List.mem_filterMap.mpr ⟨element, helement, hspace⟩⟩

theorem exists_mentions_of_mem_order {modules : List ApiModule} {merged : ApiModule}
    (hmerged : merged ∈ order modules) {space : String}
    (hmentions : merged.Mentions space) : ∃ m ∈ modules, m.Mentions space := by
  obtain ⟨element, helement, hrequest⟩ := hmentions
  obtain ⟨m, hm, helement⟩ := exists_mem_elements_order.mp ⟨merged, hmerged, helement⟩
  exact ⟨m, hm, element, helement, hrequest⟩

/-! ## Rendering with and without a module -/

/-- A lenient run renders all modules. -/
theorem exists_rendered {rules : Stub.Rules} (hlenient : rules.types.strict = false)
    (modules : List ApiModule) (session : Session) :
    ∃ rendered reached,
      outcome (renderModules rules modules) session = (.ok rendered, reached) := by
  have hrules : rules.withStrict false = rules := by
    rw [Stub.Rules.withStrict, TypeRules.withStrict, ← hlenient]
  obtain ⟨rendered, reached, new, hgoesOn, -⟩ :=
    cutsOff_renderModules rules modules session.registry
  rw [hrules] at hgoesOn
  exact ⟨rendered, _, hgoesOn session.events⟩

theorem namesOf_renderModules (rules : Stub.Rules) (modules : List ApiModule)
    (session : Session) (space : String) :
    namesOf (outcome (renderModules rules modules) session).2.registry.catalog space =
      namesOf session.registry.catalog space := by
  obtain ⟨served, -, hregistry, -⟩ := serves_renderModules rules modules session
  rw [hregistry, Reference.namesOf_foldAll]

theorem outcome_renderModules_append {rules : Stub.Rules} {first second : List ApiModule}
    {session middle reached : Session} {before after : List RenderedModule}
    (hfirst : outcome (renderModules rules first) session = (.ok before, middle))
    (hsecond : outcome (renderModules rules second) middle = (.ok after, reached)) :
    outcome (renderModules rules (first ++ second)) session =
      (.ok (before ++ after), reached) := by
  rw [renderModules_append]
  simp only [outcome_bind, hfirst, hsecond, outcome_pure]

theorem agreeInside_renderModules {inside : String → Prop} (rules : Stub.Rules)
    (modules : List ApiModule) {session : Session} {other : Registry}
    (hagree : Registry.AgreeInside inside session.registry other)
    (hunnamed : ∀ m ∈ modules, ∀ space, inside space → m.Mentions space →
      namesOf session.registry.catalog space = []) :
    Registry.AgreeInside inside
      (outcome (renderModules rules modules) session).2.registry other := by
  obtain ⟨served, hserved, hregistry, -⟩ := serves_renderModules rules modules session
  rw [hregistry]
  refine ⟨Reference.wellFormed_foldAll hagree.wellFormedFirst served,
    hagree.wellFormedSecond, ?_⟩
  intro space hspace
  rw [Reference.only_foldAll_of_unnamed hagree.wellFormedFirst, hagree.only space hspace]
  intro request hrequest hmentions
  obtain ⟨m, hm, element, helement, hmem⟩ := mem_requestsOf (hserved.mem hrequest)
  exact hunnamed m hm space hspace ⟨element, helement, request, hmem, hmentions⟩

/-- The others are rendered alike, with the module between them and without it. -/
theorem rendered_insert {inside : String → Prop} {rules : Stub.Rules}
    (hlenient : rules.types.strict = false) (own : ApiModule) {first last : List ApiModule}
    (left right : Session) (hagree : Registry.AgreeInside inside left.registry right.registry)
    (hothers : ∀ m ∈ first ++ last, ∀ space, m.Mentions space → inside space)
    (hunnamed : ∀ space, inside space → own.Mentions space →
      namesOf left.registry.catalog space = []) :
    ∃ before between after reached reached',
      outcome (renderModules rules (first ++ own :: last)) left =
        (.ok (before ++ (between ++ after)), reached) ∧
      outcome (renderModules rules (first ++ last)) right =
        (.ok (before ++ after), reached') ∧
      between.map (·.source) = [own].filter isRendered ∧
      Registry.AgreeInside inside reached.registry reached'.registry := by
  have hfirst := local_renderModules rules
    (within_requestsOf (fun m hm => hothers m (List.mem_append_left _ hm)) rules)
  have hlast := local_renderModules rules
    (within_requestsOf (fun m hm => hothers m (List.mem_append_right _ hm)) rules)
  obtain ⟨before, s₁, hbefore⟩ := exists_rendered hlenient first left
  obtain ⟨between, s₂, hbetween⟩ := exists_rendered hlenient [own] s₁
  obtain ⟨after, s₃, hafter⟩ := exists_rendered hlenient last s₂
  obtain ⟨before', t₁, hbefore'⟩ := exists_rendered hlenient first right
  obtain ⟨after', t₂, hafter'⟩ := exists_rendered hlenient last t₁
  obtain ⟨hsame₁, hagree₁⟩ := hfirst left right hagree
  rw [hbefore, hbefore'] at hsame₁ hagree₁
  -- The module itself is rendered on one side only, and what it writes is not inside.
  have hagree₂ : Registry.AgreeInside inside s₂.registry t₁.registry := by
    have hkept := agreeInside_renderModules rules [own] hagree₁
    rw [hbetween] at hkept
    apply hkept
    intro m hm space hspace hmentions
    rw [List.mem_singleton] at hm
    subst hm
    have hnames := namesOf_renderModules rules first left space
    rw [hbefore] at hnames
    rw [hnames]
    exact hunnamed space hspace hmentions
  obtain ⟨hsame₃, hagree₃⟩ := hlast s₂ t₁ hagree₂
  rw [hafter, hafter'] at hsame₃ hagree₃
  simp only [Except.ok.injEq] at hsame₁ hsame₃
  subst hsame₁ hsame₃
  exact ⟨before, between, after, s₃, t₂,
    outcome_renderModules_append hbefore (outcome_renderModules_append hbetween hafter),
    outcome_renderModules_append hbefore' hafter', sources_of_renderModules hbetween,
    hagree₃⟩

/-! ## Stubs with and without a module -/

section

variable {m : ApiModule} {before after first last : List ApiModule}
  (hunrelated : Unrelated m (before ++ after))
  (hinserted : order (before ++ m :: after) = first ++ { m with space := m.derivedSpace } :: last)
  (hothers : order (before ++ after) = first ++ last)

include hunrelated in
theorem Unrelated.not_mem_spaces :
    m.derivedSpace ∉ (before ++ after).map (·.derivedSpace) := by
  intro hmem
  obtain ⟨other, hother, hspace⟩ := List.mem_map.mp hmem
  exact hunrelated.ownSpace other hother hspace

include hinserted hothers in
/-- Before rendering, the module is not seen outside the spaces of its constants. -/
theorem agreeInside_inferred :
    Registry.AgreeInside (fun space => space ∉ m.constantSpaces)
      (inferred (before ++ m :: after)) (inferred (before ++ after)) where
  wellFormedFirst := wellFormed_inferred _
  wellFormedSecond := wellFormed_inferred _
  only := by
    intro space hnone
    apply Prefix.only_infer_congr
    rw [Registry.only_eq_iff, hinserted, hothers]
    exact ⟨only_registerAll_insert (m := { m with space := m.derivedSpace }) hnone first last,
      rfl⟩

include hunrelated in
/-- The module mentions no space in which there are constants of the others. -/
theorem Unrelated.namesOf_eq_nil {space : String} (hnone : space ∉ m.constantSpaces)
    (hmentions : m.Mentions space) :
    namesOf (inferred (before ++ m :: after)).catalog space = [] := by
  by_contra hnames
  rw [inferred_catalog] at hnames
  obtain ⟨merged, hmerged, hconstant⟩ := exists_mem_constantSpaces hnames
  obtain ⟨other, hother, hconstant⟩ := exists_constantSpaces_of_mem_order hmerged hconstant
  rcases List.mem_append.mp hother with hbefore | hrest
  · exact hunrelated.mentionsNone other (List.mem_append_left _ hbefore) space hconstant
      hmentions
  · rcases List.mem_cons.mp hrest with rfl | hafter
    · exact hnone hconstant
    · exact hunrelated.mentionsNone other (List.mem_append_right _ hafter) space hconstant
        hmentions

end

/-- Of all stubs, those of some namespaces are left. -/
theorem filter_composed {registry other : Registry} {options : Options}
    {spaces : List String} {entries between later : List RenderedModule}
    (hkept : ∀ entry ∈ entries ++ later, entry.source.space ∈ spaces)
    (hdropped : ∀ entry ∈ between, entry.source.space ∉ spaces)
    (hsame : ∀ entry ∈ entries ++ later,
      compose registry options entry = compose other options entry) :
    ((entries ++ (between ++ later)).map (compose registry options)).filter
        (fun unit => unit.space ∈ spaces) =
      (entries ++ later).map (compose other options) := by
  have hnone : between.filter (fun entry => entry.source.space ∈ spaces) = [] := by
    rw [List.filter_eq_nil_iff]
    intro entry hentry
    simpa using hdropped entry hentry
  have hall : (entries ++ later).filter (fun entry => entry.source.space ∈ spaces) =
      entries ++ later := by
    rw [List.filter_eq_self]
    intro entry hentry
    simpa using hkept entry hentry
  have hspaces : ((fun unit : StubUnit => decide (unit.space ∈ spaces)) ∘
      compose registry options) = fun entry => decide (entry.source.space ∈ spaces) := rfl
  rw [List.filter_map, hspaces, List.filter_append, List.filter_append, hnone,
    List.nil_append, ← List.filter_append, hall]
  exact List.map_congr_left hsame

/-- Without strictness, the stubs of modules are the same with an unrelated module
anywhere among them as without it, and a pattern that fails is the same one. -/
theorem generate_insert_unrelated {m : ApiModule} {before after : List ApiModule}
    (hunrelated : Unrelated m (before ++ after)) {options : Options}
    (hlenient : options.isStrict = false) :
    (generate (before ++ m :: after) options).result.map (fun units =>
        units.filter (fun unit => unit.space ∈ (before ++ after).map (·.derivedSpace))) =
      (generate (before ++ after) options).result := by
  cases hrules : Stub.Rules.ofSettings options.settings options.isStrict with
  | error invalid =>
      -- A pattern fails before any module is looked at.
      unfold generate
      simp only [hrules]
      rfl
  | ok rules =>
      have hstrict := Stub.Rules.strict_of_ofSettings hrules
      rw [hlenient] at hstrict
      obtain ⟨first, last, hinserted, hothers⟩ := order_insert hunrelated.not_mem_spaces
      have hinside : ∀ other ∈ first ++ last, ∀ space, other.Mentions space →
          space ∉ m.constantSpaces := by
        intro merged hmerged space hmentions hconstant
        rw [← hothers] at hmerged
        obtain ⟨other, hother, hmentions⟩ := exists_mentions_of_mem_order hmerged hmentions
        exact hunrelated.unmentioned other hother space hconstant hmentions
      obtain ⟨entries, between, later, reached, reached', hwith, hwithout, hbetween, hagree⟩ :=
        rendered_insert hstrict { m with space := m.derivedSpace }
          ⟨inferred (before ++ m :: after), openingEvents (before ++ m :: after) options⟩
          ⟨inferred (before ++ after), openingEvents (before ++ after) options⟩
          (agreeInside_inferred hinserted hothers) hinside
          (fun space => hunrelated.namesOf_eq_nil)
      rw [generate_eq_finish _ hrules, generate_eq_finish _ hrules, hinserted, hothers,
        finish_of_ok hwith, finish_of_ok hwithout]
      have hkept : ∀ entry ∈ entries ++ later,
          entry.source.space ∈ (before ++ after).map (·.derivedSpace) := by
        intro entry hentry
        have hsource := source_mem_of_renderModules hwithout hentry
        rw [← hothers] at hsource
        exact space_of_mem_order hsource
      have hdropped : ∀ entry ∈ between,
          entry.source.space ∉ (before ++ after).map (·.derivedSpace) := by
        intro entry hentry
        have hsource := List.mem_map_of_mem (f := RenderedModule.source) hentry
        rw [hbetween] at hsource
        rw [List.mem_singleton.mp (List.mem_of_mem_filter hsource)]
        exact hunrelated.not_mem_spaces
      -- The stubs are composed at the end, each from what agrees in its own space.
      have hsame : ∀ entry ∈ entries ++ later,
          compose reached.registry options entry = compose reached'.registry options entry := by
        intro entry hentry
        apply compose_congr
        apply hagree.only
        obtain ⟨other, hother, hspace⟩ := List.mem_map.mp (hkept entry hentry)
        rw [← hspace]
        exact hunrelated.otherSpaces other hother
      exact congrArg Except.ok (filter_composed hkept hdropped hsame)

/-- A module registers constants and an alias of its own between two modules, the
later of which makes an alias of the constants of the first. -/
theorem generate_insert_unrelated_between :
    let gui : ApiModule := ⟨"gui", "GUI", "", [
      .constant "gui.MODE_ON" none, .constant "gui.MODE_OFF" none]⟩
    let sound : ApiModule := ⟨"sound", "Sound", "", [
      .constant "audio.GAIN_LOW" none, .constant "audio.GAIN_HIGH" none,
      .function "sound.set" none
        [⟨"gain", ["constant"], some "One of audio.GAIN_*", none⟩] []]⟩
    let net : ApiModule := ⟨"net", "Net", "", [
      .function "net.send" none
        [⟨"mode", ["gui.MODE_ON", "gui.MODE_OFF", "string"], none, none⟩] []]⟩
    let options : Options := { settings := {}, version := "1.0" }
    Unrelated sound ([gui] ++ [net]) ∧ options.isStrict = false ∧
      ∃ units, (generate [gui, net] options).result = .ok units ∧
        units.map (·.space) = ["gui", "net"] ∧
        (generate [gui, sound, net] options).result.map (fun units =>
          units.filter (fun unit => unit.space ∈ ["gui", "net"])) = .ok units := by
  intro gui sound net options
  have hunrelated : Unrelated sound ([gui] ++ [net]) :=
    ⟨by decide, by decide, by decide +kernel, by decide +kernel⟩
  have hcompile : Stub.PatternsCompile options.settings := by decide
  have hagree : Options.Agree { options with strict := some true } options := ⟨rfl, rfl⟩
  obtain ⟨units, hunits, -⟩ := strict_result_eq [gui, net] hagree rfl rfl hcompile
  have hlenient : options.isStrict = false := rfl
  have hsame := generate_insert_unrelated hunrelated hlenient
  have hspaces := spaces_of_generate_eq_ok hunits
  have horder : order [gui, net] = [gui, net] := List.mergeSort_of_pairwise (by decide)
  rw [horder] at hspaces
  exact ⟨hunrelated, hlenient, units, hunits, hspaces, hsame.trans hunits⟩

end Generation
end ApiStubs
