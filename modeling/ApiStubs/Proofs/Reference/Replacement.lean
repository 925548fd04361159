import ApiStubs.Proofs.Alias.Repetition
import ApiStubs.Proofs.Reference.Locality

/-!
# What a request replaces

Folding goes from space to space and changes the ledger on its way, but what it does for
one space is not touched by the others.  So the replacements of a request can all be read
off the ledger that it leaves behind: there, a constant that the request refers to is in
some alias of its space exactly if it was replaced.
-/

namespace ApiStubs
namespace Reference

variable {ledger : Ledger} {group : String × List String} {groups : List (String × List String)}

/-! ## One space -/

theorem replacedIn_of_run {run : String} (hnodup : group.2.Nodup)
    (hrun : runOf group.2 = some run) (ledger : Ledger) :
    replacedIn ledger group =
      group.2.map (fun name => (qualify group.1 name, qualify group.1 run)) := by
  have hregistration : registrationOf group =
      some ⟨group.1, run, group.2.map (qualify group.1)⟩ := by
    rw [registrationOf, hrun, Option.map_some]
  have hmany := many_of_registrationOf hnodup hregistration
  unfold replacedIn
  simp only [hrun]
  rcases Ledger.register_cases ledger group.1 run (group.2.map (qualify group.1)) with
    ⟨-, hregister⟩ | ⟨-, hfew, -⟩ | ⟨-, -, hregister⟩
  · rw [hregister, if_pos rfl]
  · exact absurd hmany (Nat.not_le_of_lt hfew)
  · rw [hregister, if_pos rfl]

theorem replacedIn_of_no_run (hrun : runOf group.2 = none) (ledger : Ledger) :
    replacedIn ledger group = knownAliases ledger group.1 group.2 := by
  unfold replacedIn
  rw [hrun]

/-- What is replaced in a space depends on the ledger only if nothing is registered. -/
theorem replacedIn_congr {later : Ledger} (hnodup : group.2.Nodup)
    (hsame : registrationOf group = none → later.only group.1 = ledger.only group.1) :
    replacedIn later group = replacedIn ledger group := by
  cases hrun : runOf group.2 with
  | none =>
      have hnone : registrationOf group = none := by rw [registrationOf, hrun, Option.map_none]
      rw [← replacedIn_only, hsame hnone, replacedIn_only]
  | some run => rw [replacedIn_of_run hnodup hrun, replacedIn_of_run hnodup hrun]

/-- In a ledger that holds what the space has registered, the names that are replaced are
those in an alias of the space. -/
theorem exists_mem_replacedIn_iff (hnodup : group.2.Nodup)
    (habsorbs : ∀ a, registrationOf group = some a → ledger.Absorbs a) {name : String}
    (hname : name ∈ group.2) :
    (∃ replacement, (qualify group.1 name, replacement) ∈ replacedIn ledger group) ↔
      ∃ a ∈ ledger.aliases, a.space = group.1 ∧ qualify group.1 name ∈ a.members := by
  cases hrun : runOf group.2 with
  | none =>
      rw [replacedIn_of_no_run hrun, ← Ledger.isSome_findByMember_iff,
        Option.isSome_iff_exists]
      simp only [knownAliases, List.mem_filterMap, Option.map_eq_some_iff, Prod.mk.injEq]
      constructor
      · rintro ⟨-, other, -, a, hfind, hsame, -⟩
        rw [← hsame]
        exact ⟨a, hfind⟩
      · rintro ⟨a, hfind⟩
        exact ⟨a.fullName, name, hname, a, hfind, rfl, rfl⟩
  | some run =>
      have hregistration : registrationOf group =
          some ⟨group.1, run, group.2.map (qualify group.1)⟩ := by
        rw [registrationOf, hrun, Option.map_some]
      have hheld := habsorbs _ hregistration
      obtain ⟨a, ha, hspace, hrunName⟩ := Ledger.has_eq_true_iff.mp hheld.has
      have hmembers := hheld.subset a ha hspace hrunName
      rw [replacedIn_of_run hnodup hrun]
      constructor
      · intro _
        exact ⟨a, ha, hspace, hmembers (List.mem_map_of_mem hname)⟩
      · intro _
        exact ⟨qualify group.1 run, List.mem_map_of_mem hname⟩

/-! ## All spaces -/

theorem foldl_foldSpace_substitution (hspaces : (groups.map (·.1)).Nodup)
    (hnodup : ∀ group ∈ groups, group.2.Nodup) (state : Ledger × Substitution) :
    (groups.foldl foldSpace state).2 =
      state.2 ++ groups.flatMap (replacedIn (groups.foldl foldSpace state).1) := by
  induction groups generalizing state with
  | nil => simp
  | cons group groups ih =>
      rw [List.map_cons, List.nodup_cons] at hspaces
      obtain ⟨hnew, hrest⟩ := hspaces
      have hlater : ∀ other ∈ groups, other.2.Nodup :=
        fun other hother => hnodup other (List.mem_cons_of_mem group hother)
      -- The spaces after this one do not come back to it.
      have hhere : (groups.filterMap registrationOf).filter (·.space = group.1) = [] := by
        rw [List.filter_eq_nil_iff]
        intro a ha
        obtain ⟨other, hother, hregistration⟩ := List.mem_filterMap.mp ha
        obtain ⟨run, -, rfl⟩ := Option.map_eq_some_iff.mp hregistration
        have hne : other.1 ≠ group.1 := by
          intro hsame
          exact hnew (hsame ▸ List.mem_map_of_mem hother)
        simpa using hne
      have hsame : replacedIn (groups.foldl foldSpace (foldSpace state group)).1 group =
          replacedIn state.1 group := by
        apply replacedIn_congr (hnodup group List.mem_cons_self)
        intro hnone
        rw [foldl_foldSpace_ledger, Ledger.only_foldl_enter, hhere, List.foldl_nil,
          foldSpace_ledger, hnone]
      rw [List.foldl_cons, ih hrest hlater, foldSpace_substitution, List.flatMap_cons, hsame,
        List.append_assoc]

theorem nodup_spaces_bySpace (names : List QualifiedName) :
    ((bySpace names).map (·.1)).Nodup := by
  have hspaces : (bySpace names).map (·.1) = (names.map (·.space)).eraseDups := by
    rw [bySpace, List.map_map]
    exact List.map_id _
  rw [hspaces]
  exact Keyed.nodup_eraseDups _

/-- The replacements of a request are read off the ledger after it. -/
theorem resolve_substitution (registry : Registry) (request : Request) :
    (resolve registry request).2 =
      (groupsOf registry.catalog request).flatMap
        (replacedIn (resolve registry request).1) :=
  foldl_foldSpace_substitution (nodup_spaces_bySpace _)
    (fun _ hgroup => nodup_of_mem_groupsOf hgroup) _

theorem absorbs_resolve (registry : Registry) (request : Request) :
    ∀ a ∈ registrationsOf registry.catalog request,
      (resolve registry request).1.Absorbs a := by
  rw [resolve_ledger]
  exact Ledger.absorbs_foldl_enter (fun a ha => many_of_mem_registrationsOf ha) registry.ledger

end Reference
end ApiStubs
