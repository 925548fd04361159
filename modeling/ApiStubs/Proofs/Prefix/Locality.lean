import ApiStubs.Proofs.Prefix.Inference
import ApiStubs.Proofs.Registry.OneSpace

/-!
# Inference looks at one space at a time

The aliases found ahead of time in a space are made of the names of that space and
registered in it, and each space comes up at most once.
-/

namespace ApiStubs
namespace Prefix

/-- The aliases that the groups of a space call for. -/
def groupAliases (catalog : Catalog) (space : String) : List Alias :=
  (partition (namesOf catalog space)).map (fun group =>
    ⟨space, group.start, group.members.map (qualify space)⟩)

/-- Registers an alias and reports what the ledger then has under its name. -/
def Inference.addAlias (inference : Inference) (a : Alias) : Inference :=
  let ledger := inference.registry.ledger.enter a
  let held := ledger.get? a.space a.name
  { registry := { inference.registry with ledger }
    aliases := inference.aliases ++ held.toList
    events := inference.events ++
      (held.map (fun found => Event.aliasInferred found.fullName a.members.length)).toList }

theorem addGroup_eq_addAlias (space : String) (inference : Inference) (group : Group) :
    Inference.addGroup space inference group =
      inference.addAlias ⟨space, group.start, group.members.map (qualify space)⟩ := by
  unfold Inference.addGroup Inference.addAlias Ledger.enter
  simp only
  cases ((inference.registry.ledger.register space group.start
      (group.members.map (qualify space))).1.get? space group.start) with
  | none => simp
  | some held => rfl

theorem addSpace_eq_foldl (inference : Inference) (space : String) :
    inference.addSpace space =
      (groupAliases inference.registry.catalog space).foldl Inference.addAlias inference := by
  have hgroup : Inference.addGroup space = fun inference group =>
      inference.addAlias ⟨space, group.start, group.members.map (qualify space)⟩ := by
    funext inference group
    exact addGroup_eq_addAlias space inference group
  rw [Inference.addSpace, hgroup, groupAliases, List.foldl_map]
  rfl

theorem foldl_addAlias_registry (as : List Alias) (inference : Inference) :
    (as.foldl Inference.addAlias inference).registry =
      { inference.registry with
        ledger := as.foldl Ledger.enter inference.registry.ledger } := by
  induction as generalizing inference with
  | nil => rfl
  | cons a as ih =>
      rw [List.foldl_cons, ih]
      rfl

/-- The aliases that inference registers, in this order. -/
def registrations (catalog : Catalog) : List Alias :=
  (Text.sortByUnits catalog.spaces).flatMap (groupAliases catalog)

theorem infer_eq_foldl (registry : Registry) :
    infer registry =
      (registrations registry.catalog).foldl Inference.addAlias { registry } := by
  have hspaces : ∀ (spaces : List String) (inference : Inference),
      spaces.foldl Inference.addSpace inference =
        (spaces.flatMap (groupAliases inference.registry.catalog)).foldl
          Inference.addAlias inference := by
    intro spaces
    induction spaces with
    | nil => exact fun _ => rfl
    | cons space spaces ih =>
        intro inference
        rw [List.foldl_cons, ih, addSpace_eq_foldl, foldl_addAlias_registry,
          List.flatMap_cons, List.foldl_append]
  exact hspaces _ { registry }

theorem infer_ledger (registry : Registry) :
    (infer registry).registry.ledger =
      (registrations registry.catalog).foldl Ledger.enter registry.ledger := by
  rw [infer_eq_foldl, foldl_addAlias_registry]

theorem groupAliases_space {catalog : Catalog} {space : String} :
    ∀ a ∈ groupAliases catalog space, a.space = space := by
  intro a ha
  obtain ⟨group, -, rfl⟩ := List.mem_map.mp ha
  rfl

theorem groupAliases_of_not_mem_spaces {catalog : Catalog} {space : String}
    (hspace : space ∉ catalog.spaces) : groupAliases catalog space = [] := by
  have hnone : namesOf catalog space = [] := by
    apply List.eq_nil_iff_forall_not_mem.mpr
    intro name hname
    obtain ⟨constant, hconstant, hkey, -⟩ := registered_of_mem_namesOf hname
    apply hspace
    rw [Catalog.spaces, List.mem_eraseDups]
    exact List.mem_map.mpr ⟨constant, hconstant, hkey⟩
  rw [groupAliases, hnone]
  simp [partition, candidates, occurrences]

theorem nodup_sorted_spaces (catalog : Catalog) : (Text.sortByUnits catalog.spaces).Nodup :=
  (Text.sortByUnits_perm _).nodup_iff.mpr (Keyed.nodup_eraseDups _)

theorem filter_registrations (catalog : Catalog) (space : String) :
    (registrations catalog).filter (·.space = space) = groupAliases catalog space := by
  rw [registrations,
    Keyed.filter_flatMap_key (nodup_sorted_spaces catalog) (fun _ => groupAliases_space)]
  split
  next => rfl
  next hspace =>
    -- A space that does not come up has no names, and so no groups.
    rw [Text.mem_sortByUnits] at hspace
    rw [groupAliases_of_not_mem_spaces hspace]

theorem only_infer_ledger (registry : Registry) (space : String) :
    (infer registry).registry.ledger.only space =
      (groupAliases registry.catalog space).foldl Ledger.enter
        (registry.ledger.only space) := by
  rw [infer_ledger, Ledger.only_foldl_enter, filter_registrations]

/-- What inference finds in a space depends on what the registry holds of it. -/
theorem only_infer_congr {first second : Registry} {space : String}
    (honly : first.only space = second.only space) :
    (infer first).registry.only space = (infer second).registry.only space := by
  obtain ⟨hcatalog, hledger⟩ := Registry.only_eq_iff.mp honly
  rw [Registry.only_eq_iff, infer_catalog, infer_catalog, only_infer_ledger,
    only_infer_ledger, hledger, groupAliases, groupAliases,
    Catalog.namesOf_congr hcatalog]
  exact ⟨hcatalog, rfl⟩

end Prefix
end ApiStubs
