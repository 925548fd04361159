import ApiStubs.Prefix.Inference
import ApiStubs.Proofs.Prefix.Partition
import ApiStubs.Proofs.Registry

/-!
# What inference does to a registry

Inference is a sequence of registrations of groups.  It leaves the catalog
alone, keeps a registry well-formed and reports nothing but its aliases.
-/

namespace ApiStubs
namespace Prefix

/-- The short names of a space, in the order of their registration. -/
def namesOf (catalog : Catalog) (space : String) : List String :=
  (catalog.constantsOf space).map (·.name)

theorem registered_of_mem_namesOf {catalog : Catalog} {space name : String}
    (hmem : name ∈ namesOf catalog space) : catalog.Registered space name := by
  obtain ⟨constant, hconstant, hname⟩ := List.mem_map.mp hmem
  obtain ⟨hmem, hspace⟩ := List.mem_filter.mp hconstant
  exact ⟨constant, hmem, by simpa using hspace, hname⟩

theorem addGroup_registry (space : String) (inference : Inference) (group : Group) :
    (Inference.addGroup space inference group).registry =
      { inference.registry with
        ledger := (inference.registry.ledger.register space group.start
          (group.members.map (qualify space))).1 } := by
  unfold Inference.addGroup
  simp only
  split <;> rfl

/-- What holds at the start and survives each group holds after inference. -/
theorem infer_induct {motive : Inference → Prop} (registry : Registry)
    (hstart : motive { registry })
    (hgroup : ∀ inference space group, motive inference →
      inference.registry.catalog = registry.catalog →
      group ∈ partition (namesOf registry.catalog space) →
      motive (Inference.addGroup space inference group)) :
    motive (infer registry) ∧ (infer registry).registry.catalog = registry.catalog := by
  have hspace : ∀ inference space,
      motive inference ∧ inference.registry.catalog = registry.catalog →
      motive (inference.addSpace space) ∧
        (inference.addSpace space).registry.catalog = registry.catalog := by
    intro inference space hinference
    apply List.foldlRecOn
      (motive := fun inference =>
        motive inference ∧ inference.registry.catalog = registry.catalog)
      (partition (namesOf inference.registry.catalog space)) _ hinference
    rintro inner ⟨hinner, hcatalog⟩ group hmem
    rw [hinference.2] at hmem
    refine ⟨hgroup inner space group hinner hcatalog hmem, ?_⟩
    rw [addGroup_registry]
    exact hcatalog
  exact List.foldlRecOn
    (motive := fun inference =>
      motive inference ∧ inference.registry.catalog = registry.catalog)
    (Text.sortByUnits registry.catalog.spaces) Inference.addSpace ⟨hstart, rfl⟩
    (fun inference hinference space _ => hspace inference space hinference)

@[simp]
theorem infer_catalog (registry : Registry) :
    (infer registry).registry.catalog = registry.catalog :=
  (infer_induct (motive := fun _ => True) registry trivial (fun _ _ _ _ _ _ => trivial)).2

theorem group_covers {catalog : Catalog} {space : String} {group : Group}
    (hgroup : group ∈ partition (namesOf catalog space)) :
    ∀ member ∈ group.members.map (qualify space),
      Alias.Covers catalog space group.start member := by
  intro member hmember
  obtain ⟨name, hname, rfl⟩ := List.mem_map.mp hmember
  obtain ⟨hmem, hbegins⟩ := group_members hgroup hname
  exact ⟨name, rfl, registered_of_mem_namesOf hmem, hbegins⟩

theorem wellFormed_infer {registry : Registry} (hwell : registry.WellFormed) :
    (infer registry).registry.WellFormed := by
  refine (infer_induct (motive := fun inference => inference.registry.WellFormed)
    registry hwell ?_).1
  intro inference space group hinference hcatalog hgroup
  rw [addGroup_registry]
  apply hinference.register
  rw [hcatalog]
  exact group_covers hgroup

theorem grows_infer (registry : Registry) :
    Ledger.Grows registry.ledger (infer registry).registry.ledger := by
  refine (infer_induct
    (motive := fun inference => Ledger.Grows registry.ledger inference.registry.ledger)
    registry (Ledger.Grows.refl _) ?_).1
  intro inference space group hinference _ _
  rw [addGroup_registry]
  exact hinference.trans (Ledger.grows_register _ _ _ _)

theorem infer_events {registry : Registry} {event : Event}
    (hevent : event ∈ (infer registry).events) :
    ∃ fullName members, event = .aliasInferred fullName members := by
  have hall : ∀ event ∈ (infer registry).events,
      ∃ fullName members, event = .aliasInferred fullName members := by
    refine (infer_induct
      (motive := fun inference => ∀ event ∈ inference.events,
        ∃ fullName members, event = .aliasInferred fullName members)
      registry (by simp) ?_).1
    intro inference space group hinference _ _ event hevent
    unfold Inference.addGroup at hevent
    simp only at hevent
    split at hevent
    next => exact hinference event hevent
    next a _ =>
      rcases List.mem_append.mp hevent with hold | hnew
      · exact hinference event hold
      · rw [List.mem_singleton] at hnew
        exact ⟨a.fullName, _, hnew⟩
  exact hall event hevent

end Prefix
end ApiStubs
