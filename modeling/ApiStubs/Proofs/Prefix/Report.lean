import ApiStubs.Proofs.Prefix.Specific
import ApiStubs.Proofs.Reference.Agreement
import Mathlib.Data.List.Pairwise

/-!
# What inference registers and reports

Each name is registered once in an inference, so what is reported of an alias when it
is registered is what the ledger has of it in the end.  Both the aliases and the events of
an inference are therefore read off its last ledger.  A second inference makes the
registrations of the first one again, which changes nothing, and so it reports the same.
-/

namespace ApiStubs
namespace Prefix

theorem foldl_addAlias_eq {as : List Alias}
    (hkeys : (as.map (fun a => (a.space, a.name))).Nodup) (inference : Inference) :
    let last := as.foldl Ledger.enter inference.registry.ledger
    as.foldl Inference.addAlias inference =
      { registry := { inference.registry with ledger := last }
        aliases := inference.aliases ++ as.filterMap (fun a => last.get? a.space a.name)
        events := inference.events ++ as.filterMap (fun a =>
          (last.get? a.space a.name).map (fun held =>
            Event.aliasInferred held.fullName a.members.length)) } := by
  intro last
  induction as generalizing inference with
  | nil => simp [last]
  | cons a as ih =>
      obtain ⟨hnew, hrest⟩ := List.nodup_cons.mp hkeys
      have hlast : last = as.foldl Ledger.enter (inference.addAlias a).registry.ledger := rfl
      -- Nothing is registered under this name any more.
      have hheld : last.get? a.space a.name =
          (inference.registry.ledger.enter a).get? a.space a.name :=
        Ledger.get?_foldl_enter_of_not_mem hnew _
      rw [List.foldl_cons, ih hrest, ← hlast]
      unfold Inference.addAlias
      simp only [List.filterMap_cons, hheld]
      cases (inference.registry.ledger.enter a).get? a.space a.name with
      | none => simp
      | some held => simp

/-- Inference is a matter of the names that it registers and of its last ledger. -/
theorem infer_eq (registry : Registry) :
    let last := (registrations registry.catalog).foldl Ledger.enter registry.ledger
    infer registry =
      { registry := { registry with ledger := last }
        aliases := (registrations registry.catalog).filterMap (fun a =>
          last.get? a.space a.name)
        events := (registrations registry.catalog).filterMap (fun a =>
          (last.get? a.space a.name).map (fun held =>
            Event.aliasInferred held.fullName a.members.length)) } := by
  intro last
  have hfold := foldl_addAlias_eq (nodup_registrations_keys registry.catalog) { registry }
  rw [infer_eq_foldl, hfold]
  rfl

theorem infer_repeated (registry : Registry) :
    infer (infer registry).registry = infer registry := by
  have hledger : (registrations registry.catalog).foldl Ledger.enter
      (infer registry).registry.ledger = (infer registry).registry.ledger := by
    rw [infer_ledger]
    exact Ledger.foldl_enter_repeated (fun a ha => many_of_mem_registrations ha) registry.ledger
  rw [infer_eq (infer registry).registry, infer_catalog, hledger, infer_ledger, infer_eq registry]

/-! ## The first inference -/

theorem distinct_infer_empty (catalog : Catalog) :
    (infer { catalog }).registry.ledger.Distinct := by
  unfold Ledger.Distinct
  rw [aliases_infer_empty]
  exact nodup_registrations_keys catalog

/-- The report of a first inference lists the ledger. -/
theorem report_infer_empty (catalog : Catalog) :
    (infer { catalog }).aliases = registrations catalog := by
  have hledger : (registrations catalog).foldl Ledger.enter {} =
      (infer { catalog }).registry.ledger := (infer_ledger { catalog }).symm
  rw [infer_eq]
  simp only [hledger]
  have hfound : ∀ a ∈ registrations catalog,
      (infer { catalog }).registry.ledger.get? a.space a.name = some a := by
    intro a ha
    rw [Ledger.get?_eq_some_iff (distinct_infer_empty catalog), aliases_infer_empty]
    exact ⟨ha, rfl, rfl⟩
  rw [List.filterMap_congr hfound, List.filterMap_some]

theorem only_infer_empty (catalog : Catalog) (space : String) :
    ((infer { catalog }).registry.ledger.only space).aliases = groupAliases catalog space := by
  rw [Ledger.only, aliases_infer_empty, filter_registrations]

/-- No constant is in two aliases of a first inference. -/
theorem eq_of_shared_member {catalog : Catalog} (hproper : catalog.ProperNames) {a b : Alias}
    (ha : a ∈ (infer { catalog }).registry.ledger.aliases)
    (hb : b ∈ (infer { catalog }).registry.ledger.aliases) {member : String}
    (hmemberA : member ∈ a.members) (hmemberB : member ∈ b.members) : a = b := by
  obtain ⟨groupA, hgroupA, hnameA⟩ := exists_group_of_mem_infer ha
  obtain ⟨groupB, hgroupB, hnameB⟩ := exists_group_of_mem_infer hb
  rw [hnameA] at hmemberA
  rw [hnameB] at hmemberB
  obtain ⟨nameA, hmemA, rfl⟩ := List.mem_map.mp hmemberA
  obtain ⟨nameB, hmemB, hsame⟩ := List.mem_map.mp hmemberB
  have hproperA := hproper.proper (registered_of_mem_namesOf (group_members hgroupA hmemA).1)
  have hproperB := hproper.proper (registered_of_mem_namesOf (group_members hgroupB hmemB).1)
  -- A full name is read back in one way only, so the spaces are the same.
  obtain ⟨hspace, rfl⟩ := QualifiedName.mk.inj (hproperA.eq_of_text hproperB hsame.symm)
  rw [← hspace] at hgroupB
  have hgroup : groupA = groupB := by
    by_contra hne
    have hsymm : Std.Symm (fun a b : Group => a.members.Disjoint b.members) :=
      ⟨fun _ _ hdisjoint => hdisjoint.symm⟩
    exact (pairwise_disjoint_foldl_claim _).forall hgroupA hgroupB hne hmemA hmemB
  rw [hnameA, hnameB, ← hspace, hgroup]

/--
On an empty ledger inference makes one alias of each group of each space and no other, so
that no constant is in two of them, and reports these, the spaces in order.  Whatever the
registry holds, inference after inference leaves it as it is and reports the same.
-/
theorem infer_exact_and_repeatable (elements : List (String × String)) :
    (let catalog := Catalog.ofElements elements
      let inferred := infer { catalog }
      let ledger := inferred.registry.ledger
      (∀ space, (ledger.only space).aliases =
        (partition (namesOf catalog space)).map (fun group =>
          (⟨space, group.start, group.members.map (qualify space)⟩ : Alias))) ∧
      (∀ a ∈ ledger.aliases, ∀ b ∈ ledger.aliases, ∀ member ∈ a.members,
        member ∈ b.members → a = b) ∧
      ∃ spaces : List String, spaces.Perm catalog.spaces ∧
        spaces.Pairwise (fun first second => Text.compareUnits first second = .lt) ∧
        inferred.aliases = spaces.flatMap (fun space => (ledger.only space).aliases)) ∧
    ∀ registry : Registry, infer (infer registry).registry = infer registry := by
  refine ⟨?_, infer_repeated⟩
  intro catalog inferred ledger
  have hproper : catalog.ProperNames := (Registry.wellFormed_ofElements elements).properNames
  refine ⟨only_infer_empty catalog, ?_, Text.sortByUnits catalog.spaces,
    Text.sortByUnits_perm _, Text.sortByUnits_strict (Keyed.nodup_eraseDups _), ?_⟩
  · intro a ha b hb member hmemberA hmemberB
    exact eq_of_shared_member hproper ha hb hmemberA hmemberB
  · rw [report_infer_empty, registrations]
    apply List.flatMap_congr
    intro space _
    exact (only_infer_empty catalog space).symm

end Prefix
end ApiStubs
