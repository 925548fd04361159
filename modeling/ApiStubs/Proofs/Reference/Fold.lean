import ApiStubs.Reference.Fold
import ApiStubs.Proofs.Registry

/-!
# What folding a type list does to a registry

The ledger takes at most one registration for each space that the list refers
to, and every constant that is replaced is a member of the alias in its place.
The catalog takes the fallback as the type of the replaced constants.
-/

namespace ApiStubs
namespace Reference

/-- The ledger after a request, and the constants that the request replaces. -/
def resolve (registry : Registry) (request : Request) : Ledger × Substitution :=
  (bySpace (recorded registry.catalog (request.referred registry.catalog))).foldl
    foldSpace (registry.ledger, [])

def retypeAll (primitive : Primitive) (substitution : Substitution) (catalog : Catalog) :
    Catalog :=
  substitution.foldl (fun catalog pair => catalog.setPrimitive pair.1 primitive) catalog

theorem retypeAll_cons (primitive : Primitive) (pair : String × String)
    (rest : Substitution) (catalog : Catalog) :
    retypeAll primitive (pair :: rest) catalog =
      retypeAll primitive rest (catalog.setPrimitive pair.1 primitive) := rfl

/-- The aliases put in the place of constants, in the order of their first use. -/
def Substitution.produced (substitution : Substitution) : List String :=
  Alias.joinMembers [] (substitution.map (·.2))

theorem Substitution.mem_produced {substitution : Substitution} {replacement : String} :
    replacement ∈ substitution.produced ↔
      ∃ fullName, (fullName, replacement) ∈ substitution := by
  simp [produced]

theorem Substitution.produced_eq_nil_iff {substitution : Substitution} :
    substitution.produced = [] ↔ substitution = [] := by
  constructor
  · intro hproduced
    apply List.eq_nil_iff_forall_not_mem.mpr
    intro pair hpair
    have hmem : pair.2 ∈ substitution.produced := mem_produced.mpr ⟨pair.1, hpair⟩
    rw [hproduced] at hmem
    simp at hmem
  · rintro rfl
    rfl

theorem fold_eq (registry : Registry) (request : Request) :
    fold registry request =
      if (resolve registry request).2.produced = [] then
        ({ registry with ledger := (resolve registry request).1 },
          ⟨request.declared, [], none⟩)
      else
        (⟨retypeAll (fallbackOf request.declared) (resolve registry request).2
              registry.catalog,
            (resolve registry request).1⟩,
          ⟨(resolve registry request).2.produced.foldl pushNew
              (rebuild (resolve registry request).2 request.declared) ++
                [(fallbackOf request.declared).name],
            (resolve registry request).2.produced,
            some (fallbackOf request.declared)⟩) := rfl

theorem fold_registry (registry : Registry) (request : Request) :
    (fold registry request).1 =
      ⟨retypeAll (fallbackOf request.declared) (resolve registry request).2
          registry.catalog,
        (resolve registry request).1⟩ := by
  rw [fold_eq]
  by_cases hproduced : (resolve registry request).2.produced = []
  · rw [if_pos hproduced, Substitution.produced_eq_nil_iff.mp hproduced]
    rfl
  · rw [if_neg hproduced]

theorem fold_ledger (registry : Registry) (request : Request) :
    (fold registry request).1.ledger = (resolve registry request).1 := by
  rw [fold_registry]

/-! ## The constants recorded -/

theorem mem_recorded_iff {catalog : Catalog} {fullNames : List String}
    {qualified : QualifiedName} :
    qualified ∈ recorded catalog fullNames ↔
      (∃ fullName ∈ fullNames, QualifiedName.ofText? fullName = some qualified) ∧
        catalog.Registered qualified.space qualified.name := by
  simp only [recorded, List.mem_eraseDups, List.mem_filter, List.mem_filterMap,
    Catalog.isSome_lookup_iff]

theorem registered_of_mem_recorded {catalog : Catalog} {fullNames : List String}
    {qualified : QualifiedName} (hmem : qualified ∈ recorded catalog fullNames) :
    catalog.Registered qualified.space qualified.name :=
  (mem_recorded_iff.mp hmem).2

theorem mem_bySpace {names : List QualifiedName} {space : String} {shorts : List String}
    (hgroup : (space, shorts) ∈ bySpace names) {short : String} :
    short ∈ shorts ↔ ⟨space, short⟩ ∈ names := by
  simp only [bySpace, List.mem_map, List.mem_eraseDups, Prod.mk.injEq] at hgroup
  obtain ⟨other, -, rfl, rfl⟩ := hgroup
  simp only [List.mem_map, List.mem_filter, decide_eq_true_eq]
  constructor
  · rintro ⟨⟨space, name⟩, ⟨hmem, rfl⟩, rfl⟩
    exact hmem
  · intro hmem
    exact ⟨⟨other, short⟩, ⟨hmem, rfl⟩, rfl⟩

/-! ## One space after the other -/

/-- A space is folded by a registration, or by the aliases that are there. -/
theorem foldSpace_cases (ledger : Ledger) (substitution : Substitution) (space : String)
    (names : List String) :
    (∃ run, Prefix.commonRun names = some run ∧
        (ledger.register space run (names.map (qualify space))).2 = true ∧
        foldSpace (ledger, substitution) (space, names) =
          ((ledger.register space run (names.map (qualify space))).1,
            substitution ++
              names.map (fun name => (qualify space name, qualify space run)))) ∨
      foldSpace (ledger, substitution) (space, names) =
        (ledger, substitution ++ knownAliases ledger space names) := by
  unfold foldSpace
  simp only
  cases hrun : runOf names with
  | none => exact .inr rfl
  | some run =>
      have hcommon : Prefix.commonRun names = some run := by
        unfold runOf at hrun
        split at hrun
        next => contradiction
        next => exact hrun
      rcases Ledger.register_cases ledger space run (names.map (qualify space)) with
        ⟨-, hregister⟩ | ⟨-, -, hregister⟩ | ⟨-, -, hregister⟩
      · exact .inl ⟨run, hcommon, by rw [hregister], by simp only [hregister]⟩
      · right
        simp only [hregister]
      · exact .inl ⟨run, hcommon, by rw [hregister], by simp only [hregister]⟩

/-- Every replaced constant is a member of the alias in its place. -/
def Substitution.HeldBy (ledger : Ledger) (substitution : Substitution) : Prop :=
  ∀ pair ∈ substitution, ∃ a ∈ ledger.aliases,
    a.fullName = pair.2 ∧ pair.1 ∈ a.members

theorem Substitution.HeldBy.grows {earlier later : Ledger}
    {substitution : Substitution} (hheld : substitution.HeldBy earlier)
    (hgrows : Ledger.Grows earlier later) : substitution.HeldBy later := by
  intro pair hpair
  obtain ⟨a, ha, hname, hmember⟩ := hheld pair hpair
  obtain ⟨b, hb, hspace, hshort, hmembers⟩ := hgrows a ha
  refine ⟨b, hb, ?_, hmembers.mem hmember⟩
  rw [← hname, Alias.fullName, Alias.fullName, hspace, hshort]

theorem knownAliases_heldBy (ledger : Ledger) (space : String) (names : List String) :
    Substitution.HeldBy ledger (knownAliases ledger space names) := by
  intro pair hpair
  simp only [knownAliases, List.mem_filterMap, Option.map_eq_some_iff] at hpair
  obtain ⟨name, -, a, hfind, rfl⟩ := hpair
  obtain ⟨ha, -, hmember⟩ := Ledger.mem_of_findByMember hfind
  exact ⟨a, ha, rfl, hmember⟩

theorem grows_foldSpace (state : Ledger × Substitution) (group : String × List String) :
    Ledger.Grows state.1 (foldSpace state group).1 := by
  rcases foldSpace_cases state.1 state.2 group.1 group.2 with ⟨run, -, -, hfold⟩ | hfold
  · rw [hfold]
    exact Ledger.grows_register _ _ _ _
  · rw [hfold]
    exact Ledger.Grows.refl _

theorem foldSpace_heldBy {state : Ledger × Substitution} (group : String × List String)
    (hheld : state.2.HeldBy state.1) :
    Substitution.HeldBy (foldSpace state group).1 (foldSpace state group).2 := by
  have hgrows := grows_foldSpace state group
  rcases foldSpace_cases state.1 state.2 group.1 group.2 with
    ⟨run, -, haccepted, hfold⟩ | hfold
  · rw [hfold] at hgrows ⊢
    intro pair hpair
    rcases List.mem_append.mp hpair with hold | hnew
    · exact hheld.grows hgrows pair hold
    · obtain ⟨name, hname, rfl⟩ := List.mem_map.mp hnew
      obtain ⟨a, ha, hspace, hshort, hmembers⟩ := Ledger.register_accepted haccepted
      refine ⟨a, ha, ?_, hmembers _ (List.mem_map_of_mem hname)⟩
      rw [Alias.fullName, hspace, hshort]
  · rw [hfold]
    intro pair hpair
    rcases List.mem_append.mp hpair with hold | hnew
    · exact hheld pair hold
    · exact knownAliases_heldBy _ _ _ pair hnew

theorem grows_resolve (registry : Registry) (request : Request) :
    Ledger.Grows registry.ledger (resolve registry request).1 :=
  List.foldlRecOn
    (motive := fun state : Ledger × Substitution => Ledger.Grows registry.ledger state.1)
    _ foldSpace (Ledger.Grows.refl _)
    (fun state hstate group _ => hstate.trans (grows_foldSpace state group))

theorem resolve_heldBy (registry : Registry) (request : Request) :
    Substitution.HeldBy (resolve registry request).1 (resolve registry request).2 :=
  List.foldlRecOn
    (motive := fun state : Ledger × Substitution => state.2.HeldBy state.1)
    _ foldSpace (by simp [Substitution.HeldBy])
    (fun _ hstate group _ => foldSpace_heldBy group hstate)

/-! ## Well-formedness -/

theorem wellFormed_resolve {registry : Registry} (hwell : registry.WellFormed)
    (request : Request) :
    Registry.WellFormed { registry with ledger := (resolve registry request).1 } := by
  apply List.foldlRecOn
    (motive := fun state : Ledger × Substitution =>
      Registry.WellFormed { registry with ledger := state.1 })
    _ foldSpace hwell
  rintro ⟨ledger, substitution⟩ hstate ⟨space, names⟩ hgroup
  rcases foldSpace_cases ledger substitution space names with
    ⟨run, hrun, -, hfold⟩ | hfold
  · rw [hfold]
    apply Registry.WellFormed.register hstate
    intro member hmember
    obtain ⟨name, hname, rfl⟩ := List.mem_map.mp hmember
    have hrecorded := (mem_bySpace hgroup).mp hname
    exact ⟨name, rfl, registered_of_mem_recorded hrecorded,
      Prefix.begins_of_commonRun hrun hname⟩
  · rw [hfold]
    exact hstate

theorem wellFormed_retypeAll {catalog : Catalog} {ledger : Ledger}
    (hwell : Registry.WellFormed ⟨catalog, ledger⟩) (primitive : Primitive)
    (substitution : Substitution) :
    Registry.WellFormed ⟨retypeAll primitive substitution catalog, ledger⟩ :=
  List.foldlRecOn
    (motive := fun catalog => Registry.WellFormed ⟨catalog, ledger⟩)
    substitution _ hwell
    (fun _ hstep pair _ => hstep.setPrimitive pair.1 primitive)

theorem wellFormed_fold {registry : Registry} (hwell : registry.WellFormed)
    (request : Request) : (fold registry request).1.WellFormed := by
  rw [fold_registry]
  exact wellFormed_retypeAll (wellFormed_resolve hwell request) _ _

end Reference
end ApiStubs
