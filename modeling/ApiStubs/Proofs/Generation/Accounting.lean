import ApiStubs.Proofs.Generation.AliasBlocks
import ApiStubs.Proofs.Generation.ConstantFields
import ApiStubs.Proofs.Rendering.Reports

/-!
# Every module is accounted for

A run that gives stubs leaves no namespace of its modules out: each has one stub, or it is
reported once as skipped.  The last report counts the stubs, the constants and the aliases
that the run ends with.
-/

namespace ApiStubs

/-- The namespace that an event reports as skipped. -/
def Event.skipped? : Event → Option String
  | .moduleSkipped space => some space
  | _ => none

theorem Event.skipped?_eq_none {event : Event} (hunknown : event.unknown?.isSome = true) :
    event.skipped? = none := by
  cases event with
  | unknownType => rfl
  | _ => contradiction

theorem count_moduleSkipped (events : List Event) (space : String) :
    events.count (.moduleSkipped space) = (events.filterMap Event.skipped?).count space := by
  induction events with
  | nil => rfl
  | cons event rest ih =>
      rw [List.count_cons, ih, List.filterMap_cons]
      cases event with
      | moduleSkipped other => simp [Event.skipped?, List.count_cons]
      | _ => simp [Event.skipped?]

/-- The full name of a constant, if it can be cut into a space and a short name. -/
def Element.constantName? : Element → Option String
  | .constant name _ => if (QualifiedName.ofText? name).isSome then some name else none
  | _ => none

namespace Generation

open Rendering

/-! ## The reports of a run -/

theorem filterMap_skipped_of_unknown {events : List Event}
    (hunknown : ∀ event ∈ events, event.unknown?.isSome = true) :
    events.filterMap Event.skipped? = [] := by
  rw [List.filterMap_eq_nil_iff]
  intro event hevent
  exact Event.skipped?_eq_none (hunknown event hevent)

/-- While the modules are rendered, unknown types are reported and each module that is left
out is reported as skipped. -/
theorem events_renderModules {rules : Stub.Rules} {modules : List ApiModule}
    {session reached : Session} {rendered : List RenderedModule}
    (hrun : outcome (renderModules rules modules) session = (.ok rendered, reached)) :
    ∃ new, reached.events = session.events ++ new ∧
      (∀ event ∈ new, event.unknown?.isSome = true ∨ event.skipped?.isSome = true) ∧
      new.filterMap Event.skipped? =
        (modules.filter (fun m => !isRendered m)).map (·.space) := by
  induction modules generalizing session rendered with
  | nil =>
      rw [renderModules, outcome_pure] at hrun
      cases hrun
      exact ⟨[], by simp, by simp, rfl⟩
  | cons m rest ih =>
      unfold renderModules at hrun
      simp only at hrun
      split at hrun
      next hnone =>
        have hskipped : isRendered m = false := by
          simp only [isRendered, hnone, Bool.not_true]
        rw [outcome_bind, outcome_report] at hrun
        obtain ⟨new, hnew, hkind, hspaces⟩ := ih hrun
        refine ⟨.moduleSkipped m.space :: new, ?_, ?_, ?_⟩
        · rw [hnew, List.append_assoc, List.singleton_append]
        · exact List.forall_mem_cons.mpr ⟨.inr rfl, hkind⟩
        · simp only [List.filterMap_cons, Event.skipped?, hspaces, List.filter_cons, hskipped,
            Bool.not_false, if_true, List.map_cons]
      next hsome =>
        have hkept : isRendered m = true := by
          simpa only [isRendered, Bool.not_eq_true', Bool.not_eq_true] using hsome
        obtain ⟨declared, hdeclared, hunknown⟩ :=
          Stub.reportsUnknown_declare rules
            (Stub.sortElements (m.elements.filter Element.isRenderable)) session
        rw [outcome_bind] at hrun
        split at hrun
        next declarations middle hdeclare =>
          rw [hdeclare] at hdeclared
          rw [outcome_bind] at hrun
          split at hrun
          next others last hothers =>
            rw [outcome_pure] at hrun
            cases hrun
            obtain ⟨new, hnew, hkind, hspaces⟩ := ih hothers
            refine ⟨declared ++ new, ?_, ?_, ?_⟩
            · rw [hnew, hdeclared, List.append_assoc]
            · exact List.forall_mem_append.mpr
                ⟨fun event hevent => .inl (hunknown event hevent), hkind⟩
            · rw [List.filterMap_append, filterMap_skipped_of_unknown hunknown, hspaces]
              simp only [List.nil_append, List.filter_cons, hkept, Bool.not_true,
                Bool.false_eq_true, if_false]
          next => cases hrun
        next => cases hrun

/-- A run that gives stubs reports its completion last, and what it reports before tells
the namespaces without a stub. -/
theorem events_of_generate {modules : List ApiModule} {options : Options}
    {units : List StubUnit} (hunits : (generate modules options).result = .ok units) :
    ∃ rules earlier,
      Stub.Rules.ofSettings options.settings options.isStrict = .ok rules ∧
      (generate modules options).events = earlier ++ [.generationCompleted units.length
        (finalRegistry rules modules options).catalog.size
        (finalRegistry rules modules options).ledger.listing.length] ∧
      (∀ units constants aliases,
        Event.generationCompleted units constants aliases ∉ earlier) ∧
      earlier.filterMap Event.skipped? =
        ((order modules).filter (fun m => !isRendered m)).map (·.space) := by
  obtain ⟨rules, rendered, reached, hrules, hrun, rfl⟩ := rendered_of_generate_eq_ok hunits
  obtain ⟨new, hnew, hkind, hspaces⟩ := events_renderModules hrun
  refine ⟨rules, reached.events, hrules, ?_, ?_, ?_⟩
  · rw [generate_eq_finish modules hrules, finish_of_ok hrun, (finalRegistry_of_ok hrun).1,
      List.length_map]
  · intro units constants aliases hmem
    rw [hnew, openingEvents, List.cons_append, List.mem_cons, List.mem_append] at hmem
    rcases hmem with hstarted | hinferred | hlater
    · contradiction
    · obtain ⟨fullName, members, hevent⟩ := Prefix.infer_events hinferred
      contradiction
    · rcases hkind _ hlater with hunknown | hskipped
      · contradiction
      · contradiction
  · have hopening : (openingEvents modules options).filterMap Event.skipped? = [] := by
      rw [List.filterMap_eq_nil_iff]
      intro event hevent
      rcases List.mem_cons.mp hevent with rfl | hinferred
      · rfl
      · obtain ⟨fullName, members, rfl⟩ := Prefix.infer_events hinferred
        rfl
    rw [hnew, List.filterMap_append, hopening, hspaces, List.nil_append]

/-! ## What the last report counts -/

/-- The full names of the constants of the modules that can be cut. -/
def constantNames (modules : List ApiModule) : List String :=
  (modules.flatMap (·.elements)).filterMap Element.constantName?

theorem mem_constantNames {modules : List ApiModule} {fullName : String} :
    fullName ∈ constantNames modules ↔
      ∃ space name, QualifiedName.ofText? fullName = some ⟨space, name⟩ ∧
        ∃ m ∈ modules, ∃ description,
          Element.constant fullName description ∈ m.elements := by
  simp only [constantNames, List.mem_filterMap, List.mem_flatMap]
  constructor
  · rintro ⟨element, ⟨m, hm, helement⟩, hname⟩
    cases element with
    | constant name description =>
        rw [Element.constantName?, Option.ite_none_right_eq_some, Option.some.injEq] at hname
        obtain ⟨hcut, rfl⟩ := hname
        obtain ⟨qualified, hread⟩ := Option.isSome_iff_exists.mp hcut
        exact ⟨qualified.space, qualified.name, hread, m, hm, description, helement⟩
    | _ => contradiction
  · rintro ⟨space, name, hread, m, hm, description, helement⟩
    exact ⟨_, ⟨m, hm, helement⟩, by simp [Element.constantName?, hread]⟩

/-- The catalog of a run holds each constant name of the modules once. -/
theorem size_registerAll (modules : List ApiModule) :
    (registerAll (order modules)).size = (constantNames modules).eraseDups.length := by
  have hproper := (wellFormed_registerAll (order modules)).properNames
  have hdistinct := distinct_registerAll (order modules)
  have hnames : ((registerAll (order modules)).constants.map (·.fullName)).Nodup :=
    Catalog.nodup_fullNames hproper hdistinct
  have hperm : ((registerAll (order modules)).constants.map (·.fullName)).Perm
      (constantNames modules).eraseDups := by
    apply (List.perm_ext_iff_of_nodup hnames (Keyed.nodup_eraseDups _)).mpr
    intro fullName
    rw [List.mem_eraseDups, mem_constantNames, List.mem_map]
    constructor
    · rintro ⟨constant, hconstant, hname⟩
      have hread := (Catalog.fullName_eq_iff (hproper constant hconstant)).mp hname
      obtain ⟨m, hm, other, description, helement, hother⟩ :=
        registered_order_iff.mp ⟨constant, hconstant, rfl, rfl⟩
      have hsame := (QualifiedName.ofText?_eq_some_iff.mp hother).2.symm.trans
        (QualifiedName.ofText?_eq_some_iff.mp hread).2
      subst hsame
      exact ⟨_, _, hread, m, hm, description, helement⟩
    · rintro ⟨space, name, hread, m, hm, description, helement⟩
      obtain ⟨constant, hconstant, rfl, rfl⟩ :=
        registered_order_iff.mpr ⟨m, hm, fullName, description, helement, hread⟩
      exact ⟨constant, hconstant,
        (Catalog.fullName_eq_iff (hproper constant hconstant)).mpr hread⟩
  rw [Catalog.size, ← hperm.length_eq, List.length_map]

theorem size_foldAll {registry : Registry} (hwell : registry.WellFormed)
    (requests : List Reference.Request) :
    (Reference.foldAll registry requests).catalog.size = registry.catalog.size := by
  rw [Catalog.size, Reference.foldAll_constants hwell, List.length_map, Catalog.size]

theorem size_finalRegistry (rules : Stub.Rules) (modules : List ApiModule)
    (options : Options) :
    (finalRegistry rules modules options).catalog.size =
      (constantNames modules).eraseDups.length := by
  obtain ⟨served, -, hregistry, -⟩ := serves_renderModules rules (order modules)
    ⟨inferred modules, openingEvents modules options⟩
  rw [finalRegistry, hregistry, size_foldAll (wellFormed_inferred modules),
    inferred_catalog, size_registerAll]

theorem wellFormed_finalRegistry (rules : Stub.Rules) (modules : List ApiModule)
    (options : Options) : (finalRegistry rules modules options).WellFormed :=
  (serves_renderModules rules (order modules)).wellFormed (wellFormed_inferred modules)

/-! ## Namespaces -/

/-- The namespaces that are skipped are those of modules without anything to render. -/
theorem mem_skipped {modules : List ApiModule} {space : String} :
    space ∈ ((order modules).filter (fun m => !isRendered m)).map (·.space) ↔
      space ∈ modules.map (·.derivedSpace) ∧ ¬ HasRenderable modules space := by
  rw [← ApiModule.mem_spaces_merge, List.mem_map, List.mem_map]
  constructor
  · rintro ⟨merged, hmerged, rfl⟩
    obtain ⟨horder, hskipped⟩ := List.mem_filter.mp hmerged
    refine ⟨⟨merged, mem_order.mp horder, rfl⟩, ?_⟩
    rw [hasRenderable_iff horder]
    simpa using hskipped
  · rintro ⟨⟨merged, hmerged, rfl⟩, hnone⟩
    have horder := mem_order.mpr hmerged
    rw [hasRenderable_iff horder] at hnone
    exact ⟨merged, List.mem_filter.mpr ⟨horder, by simpa using hnone⟩, rfl⟩

/-- A run that gives stubs accounts for every namespace of its modules.  The stubs are in
strict order of their namespaces.  A namespace with an element that can be rendered has one
stub, and any other has none and is reported once as skipped.  The last report counts the
stubs, the constant names that can be cut and the aliases that the run ends with, each once. -/
theorem every_namespace_accounted (modules : List ApiModule) (options : Options)
    {units : List StubUnit} (hunits : (generate modules options).result = .ok units) :
    (units.map (·.space)).Pairwise (fun a b => Text.compareUnits a b = .lt) ∧
    (∀ unit ∈ units, unit.space ∈ modules.map (·.derivedSpace)) ∧
    (∀ space ∈ modules.map (·.derivedSpace),
      (HasRenderable modules space →
        (units.map (·.space)).count space = 1 ∧
          (generate modules options).events.count (.moduleSkipped space) = 0) ∧
      (¬ HasRenderable modules space →
        (units.map (·.space)).count space = 0 ∧
          (generate modules options).events.count (.moduleSkipped space) = 1)) ∧
    (∀ space, Event.moduleSkipped space ∈ (generate modules options).events →
      space ∈ modules.map (·.derivedSpace)) ∧
    ∃ rules earlier,
      Stub.Rules.ofSettings options.settings options.isStrict = .ok rules ∧
      (generate modules options).events = earlier ++ [.generationCompleted units.length
        (constantNames modules).eraseDups.length
        (finalRegistry rules modules options).ledger.aliases.length] ∧
      (∀ units constants aliases,
        Event.generationCompleted units constants aliases ∉ earlier) ∧
      (finalRegistry rules modules options).ledger.Distinct := by
  obtain ⟨rules, earlier, hrules, hevents, hearlier, hskipped⟩ := events_of_generate hunits
  have hnodup := nodup_spaces_of_generate hunits
  have hdistinct := (wellFormed_finalRegistry rules modules options).distinct
  have hcount : ∀ space, (generate modules options).events.count (.moduleSkipped space) =
      (((order modules).filter (fun m => !isRendered m)).map (·.space)).count space := by
    intro space
    rw [count_moduleSkipped, hevents, List.filterMap_append, hskipped, List.filterMap_cons]
    simp [Event.skipped?]
  have hskippedNodup :
      (((order modules).filter (fun m => !isRendered m)).map (·.space)).Nodup :=
    (nodup_spaces_order modules).sublist (List.filter_sublist.map _)
  refine ⟨?_, ?_, ?_, ?_, rules, earlier, hrules, ?_, hearlier, ?_⟩
  · rw [spaces_of_generate_eq_ok hunits, List.pairwise_map]
    exact (Text.mergeSort_key_strict ApiModule.space
      (ApiModule.distinctSpaces_merge modules)).sublist List.filter_sublist
  · intro unit hunit
    obtain ⟨m, hm, hspace, -⟩ := (mem_spaces_of_generate hunits).mp (List.mem_map_of_mem hunit)
    exact List.mem_map.mpr ⟨m, hm, hspace⟩
  · intro space hspace
    rw [hcount]
    constructor
    · intro hrenderable
      constructor
      · exact List.count_eq_one_of_mem hnodup ((mem_spaces_of_generate hunits).mpr hrenderable)
      · apply List.count_eq_zero_of_not_mem
        exact fun hmem => (mem_skipped.mp hmem).2 hrenderable
    · intro hnone
      constructor
      · apply List.count_eq_zero_of_not_mem
        exact fun hmem => hnone ((mem_spaces_of_generate hunits).mp hmem)
      · exact List.count_eq_one_of_mem hskippedNodup (mem_skipped.mpr ⟨hspace, hnone⟩)
  · intro space hmem
    rw [← List.count_pos_iff, hcount, List.count_pos_iff] at hmem
    exact (mem_skipped.mp hmem).1
  · rw [hevents, size_finalRegistry, hdistinct.listing_perm.length_eq]
  · exact hdistinct

/-- A module without a namespace joins the one before it, and both give one stub; an
element of another kind gives none, and a name without a space is no constant. -/
theorem every_namespace_accounted_of_skipped_net :
    let gui : ApiModule := ⟨"gui", "GUI", "", [
      .constant "MODE" none, .constant "gui.MODE_OFF" none]⟩
    let more : ApiModule := ⟨"", "GUI", "", [
      .constant "gui.MODE_OFF" none, .constant "gui.MODE_ON" none]⟩
    let net : ApiModule := ⟨"net", "Net", "", [.unsupported "net.sent" "event"]⟩
    let options : Options := { settings := {}, version := "1.0" }
    ∃ units, (generate [gui, more, net] options).result = .ok units ∧
      (units.map (·.space)).count "gui" = 1 ∧ (units.map (·.space)).count "net" = 0 ∧
      (generate [gui, more, net] options).events.count (.moduleSkipped "net") = 1 ∧
      .generationCompleted 1 2 1 ∈ (generate [gui, more, net] options).events := by
  intro gui more net options
  have hcompile : Stub.PatternsCompile options.settings := by decide
  obtain ⟨units, hunits⟩ := exists_units_of_lenient [gui, more, net] rfl hcompile
  have horder : order [gui, more, net] =
      [⟨"gui", "GUI", "", gui.elements ++ more.elements⟩, net] :=
    List.mergeSort_of_pairwise (by decide)
  obtain ⟨-, -, haccounted, -, rules, earlier, hrules, hevents, -⟩ :=
    every_namespace_accounted [gui, more, net] options hunits
  have hgui : HasRenderable [gui, more, net] "gui" :=
    ⟨gui, by simp, by decide, .constant "MODE" none, by simp [gui], by decide⟩
  have hnet : ¬ HasRenderable [gui, more, net] "net" := by
    rintro ⟨m, hm, hspace, hrenderable⟩
    simp only [List.mem_cons, List.not_mem_nil, or_false] at hm
    rcases hm with rfl | rfl | rfl
    · exact absurd hspace (by decide)
    · exact absurd hspace (by decide)
    · exact absurd hrenderable (by decide)
  obtain ⟨honce, -⟩ := (haccounted "gui" (by decide)).1 hgui
  obtain ⟨hnone, hskipped⟩ := (haccounted "net" (by decide)).2 hnet
  have hlength : units.length = 1 := by
    have hspaces := congrArg List.length (spaces_of_generate_eq_ok hunits)
    rw [horder, List.length_map] at hspaces
    exact hspaces.trans (by decide)
  have hnames : (constantNames [gui, more, net]).eraseDups.length = 2 := by decide +kernel
  have haliases :
      (finalRegistry rules [gui, more, net] options).ledger.aliases.length = 1 := by
    have hsorted : Stub.sortElements
        ((gui.elements ++ more.elements).filter Element.isRenderable) =
          gui.elements ++ more.elements := List.mergeSort_of_pairwise (by decide)
    cases hrules
    unfold finalRegistry inferred
    rw [horder]
    simp only [renderModules, hsorted]
    decide +kernel
  refine ⟨units, hunits, honce, hnone, hskipped, ?_⟩
  rw [hevents, hlength, hnames, haliases]
  exact List.mem_append_right _ (List.mem_singleton.mpr rfl)

end Generation
end ApiStubs
