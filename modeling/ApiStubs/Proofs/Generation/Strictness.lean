import ApiStubs.Proofs.Generation
import ApiStubs.Proofs.Rendering.Strictness

/-!
# Strict and lenient runs

A strict run is the lenient run on the same input up to the first unknown type.
So it fails if and only if the lenient run reports one, it fails with the first
one, and otherwise both give the same stubs.
-/

namespace ApiStubs
namespace Generation

open Rendering

theorem cutsOff_renderModules (rules : Stub.Rules) (modules : List ApiModule) :
    CutsOff (renderModules (rules.withStrict true) modules)
      (renderModules (rules.withStrict false) modules) := by
  induction modules with
  | nil => exact cutsOff_pure []
  | cons m rest ih =>
      unfold renderModules
      by_cases hnone : (m.elements.filter Element.isRenderable).isEmpty = true
      · simp only [hnone, if_true]
        exact (cutsOff_report rfl).bind (fun _ => ih)
      · simp only [hnone, Bool.false_eq_true, if_false]
        apply (Stub.cutsOff_declare rules _).bind
        intro declarations
        exact ih.bind (fun _ => cutsOff_pure _)

/-- The options agree in everything but strictness. -/
structure Options.Agree (first second : Options) : Prop where
  version : first.version = second.version
  settings : { first.settings with generation := second.settings.generation } =
    second.settings

theorem Options.Agree.ofSettings_eq {first second : Options} (hagree : first.Agree second)
    (strict : Bool) :
    Stub.Rules.ofSettings second.settings strict =
      Stub.Rules.ofSettings first.settings strict := by
  rw [← hagree.settings]
  rfl

theorem Options.Agree.compose_eq {first second : Options} (hagree : first.Agree second)
    (registry : Registry) : compose registry second = compose registry first := by
  have houtput : second.settings.output = first.settings.output := by
    rw [← hagree.settings]
  funext rendered
  unfold compose
  rw [houtput, hagree.version]

theorem firstUnknown?_openingEvents (modules : List ApiModule) (options : Options) :
    firstUnknown? (openingEvents modules options) = none := by
  apply List.findSome?_eq_none_iff.mpr
  intro event hevent
  rcases List.mem_cons.mp hevent with rfl | hinferred
  · rfl
  · obtain ⟨fullName, members, rfl⟩ := Prefix.infer_events hinferred
    rfl

/-- The strict run fails with the first unknown type that the lenient one reports,
and ends like it if there is none. -/
theorem strict_result_eq (modules : List ApiModule) {strict lenient : Options}
    (hagree : strict.Agree lenient) (hstrict : strict.isStrict = true)
    (hlenient : lenient.isStrict = false)
    (hcompile : Stub.PatternsCompile strict.settings) :
    ∃ units, (generate modules lenient).result = .ok units ∧
      (generate modules strict).result =
        match firstUnknown? (generate modules lenient).events with
        | none => .ok units
        | some unknown => .error (.unknownType unknown) := by
  obtain ⟨rules, hrules⟩ := Stub.ofSettings_of_patternsCompile hcompile
  have hstrictRules := hrules strict.isStrict
  have hlenientRules := hrules lenient.isStrict
  rw [← hagree.ofSettings_eq] at hlenientRules
  rw [generate_eq_finish modules hstrictRules, generate_eq_finish modules hlenientRules,
    hstrict, hlenient]
  obtain ⟨rendered, reached, new, hgoesOn, hcut⟩ :=
    cutsOff_renderModules rules (order modules) (inferred modules)
  rw [finish_of_ok (hgoesOn (openingEvents modules lenient))]
  refine ⟨_, rfl, ?_⟩
  have hfirst : ∀ units constants aliases,
      firstUnknown? (openingEvents modules lenient ++ new ++
        [.generationCompleted units constants aliases]) = firstUnknown? new := by
    intro units constants aliases
    rw [firstUnknown?_append, firstUnknown?_append, firstUnknown?_openingEvents,
      Option.none_or]
    exact Option.or_none
  simp only [hfirst]
  cases hunknown : firstUnknown? new with
  | none =>
      rw [hunknown] at hcut
      rw [finish_of_ok (hcut (openingEvents modules strict)), hagree.compose_eq]
  | some unknown =>
      rw [hunknown] at hcut
      obtain ⟨stopped, hstopped⟩ := hcut (openingEvents modules strict)
      rw [finish_of_error hstopped]

/-- A lenient run whose patterns compile always gives stubs. -/
theorem exists_units_of_lenient (modules : List ApiModule) {options : Options}
    (hlenient : options.isStrict = false) (hcompile : Stub.PatternsCompile options.settings) :
    ∃ units, (generate modules options).result = .ok units := by
  have hagree : Options.Agree { options with strict := some true } options := ⟨rfl, rfl⟩
  obtain ⟨units, hunits, -⟩ := strict_result_eq modules hagree rfl hlenient hcompile
  exact ⟨units, hunits⟩

/-- A strict run fails on an unknown type if and only if the lenient run on the
same input reports one; it names the first one reported; and if there is none,
both give the same stubs. -/
theorem strict_run_agrees (modules : List ApiModule) {strict lenient : Options}
    (hagree : strict.Agree lenient) (hstrict : strict.isStrict = true)
    (hlenient : lenient.isStrict = false)
    (hcompile : Stub.PatternsCompile strict.settings) :
    ((∃ unknown, (generate modules strict).result = .error (.unknownType unknown)) ↔
      ∃ event ∈ (generate modules lenient).events, event.unknown?.isSome = true) ∧
    (∀ unknown, (generate modules strict).result = .error (.unknownType unknown) →
      firstUnknown? (generate modules lenient).events = some unknown) ∧
    ((∀ event ∈ (generate modules lenient).events, event.unknown? = none) →
      ∃ units, (generate modules strict).result = .ok units ∧
        (generate modules lenient).result = .ok units) := by
  obtain ⟨units, hunits, hresult⟩ :=
    strict_result_eq modules hagree hstrict hlenient hcompile
  have hsome : ∀ unknown,
      (generate modules strict).result = .error (.unknownType unknown) →
      firstUnknown? (generate modules lenient).events = some unknown := by
    intro unknown hfails
    rw [hfails] at hresult
    cases hfirst : firstUnknown? (generate modules lenient).events with
    | none =>
        rw [hfirst] at hresult
        contradiction
    | some first =>
        rw [hfirst] at hresult
        simp only [Except.error.injEq, Failure.unknownType.injEq] at hresult
        rw [hresult]
  refine ⟨⟨?_, ?_⟩, hsome, ?_⟩
  · rintro ⟨unknown, hfails⟩
    obtain ⟨event, hevent, hreports⟩ :=
      List.exists_of_findSome?_eq_some (hsome unknown hfails)
    exact ⟨event, hevent, by rw [hreports]; rfl⟩
  · rintro ⟨event, hevent, hreports⟩
    cases hfirst : firstUnknown? (generate modules lenient).events with
    | none =>
        have hnone := List.findSome?_eq_none_iff.mp hfirst event hevent
        rw [hnone] at hreports
        contradiction
    | some unknown =>
        rw [hfirst] at hresult
        exact ⟨unknown, hresult⟩
  · intro hnone
    have hfirst : firstUnknown? (generate modules lenient).events = none :=
      List.findSome?_eq_none_iff.mpr hnone
    rw [hfirst] at hresult
    exact ⟨units, hresult, hunits⟩

/-- The first type is replaced, so that of the two unknown ones behind it the
first is the one that the strict run names. -/
theorem strict_run_agrees_on_second_type :
    let modules : List ApiModule := [⟨"gui", "GUI", "", [
      .function "gui.play" none [⟨"done", ["func", "vektor"], none, none⟩]
        [⟨"pose", ["matrice"], none, none⟩]]⟩]
    let settings : Settings := { replacements := { types := ⟨[("func?", "function")]⟩ } }
    let strict : Options :=
      { settings := { settings with generation := { strict := true } }, version := "1.0" }
    let lenient : Options := { settings, version := "1.0", strict := some false }
    strict.Agree lenient ∧ strict.isStrict = true ∧ lenient.isStrict = false ∧
      Stub.PatternsCompile strict.settings ∧
      (generate modules strict).result =
        .error (.unknownType ⟨"vektor", "gui.play"⟩) := by
  intro modules settings strict lenient
  have hagree : strict.Agree lenient := ⟨rfl, rfl⟩
  have hcompile : Stub.PatternsCompile strict.settings := by decide +kernel
  have hfirst : firstUnknown? (generate modules lenient).events =
      some ⟨"vektor", "gui.play"⟩ := by decide +kernel
  obtain ⟨hfails, hnames, -⟩ := strict_run_agrees modules hagree rfl rfl hcompile
  obtain ⟨event, hevent, hreports⟩ := List.exists_of_findSome?_eq_some hfirst
  obtain ⟨unknown, hresult⟩ :=
    hfails.mpr ⟨event, hevent, by rw [hreports]; rfl⟩
  have hunknown := hnames unknown hresult
  rw [hfirst, Option.some.injEq] at hunknown
  rw [hunknown]
  exact ⟨hagree, rfl, rfl, hcompile, hresult⟩

end Generation
end ApiStubs
