import ApiStubs.Proofs.Alias.Repetition
import ApiStubs.Proofs.Prefix.Locality
import ApiStubs.Proofs.Prefix.Selection

/-!
# The aliases of a first inference

No group is registered twice and each has enough members, so inference fills an
empty ledger with exactly the groups of all spaces.  To register some of the members
of an alias again is to do nothing.
-/

namespace ApiStubs

namespace Ledger

/-- A new alias with enough different members goes behind the others. -/
theorem enter_new {ledger : Ledger} {a : Alias} (hnew : ledger.has a.space a.name = false)
    (hmany : Alias.leastMembers ≤ a.members.length) (hnodup : a.members.Nodup) :
    (ledger.enter a).aliases = ledger.aliases ++ [a] := by
  have hjoin : Alias.joinMembers [] a.members = a.members := by
    rw [Alias.joinMembers_append_of_nodup (by simpa using hnodup), List.nil_append]
  rcases register_cases ledger a.space a.name a.members with
    ⟨hhas, -⟩ | ⟨-, hfew, -⟩ | ⟨-, -, hregister⟩
  · rw [hnew] at hhas
    contradiction
  · rw [hjoin] at hfew
    exact absurd hmany (Nat.not_le_of_lt hfew)
  · rw [enter, hregister, hjoin]

theorem foldl_enter_new {as : List Alias} {ledger : Ledger}
    (hkeys : ((ledger.aliases ++ as).map (fun a => (a.space, a.name))).Nodup)
    (hmany : ∀ a ∈ as, Alias.leastMembers ≤ a.members.length)
    (hnodup : ∀ a ∈ as, a.members.Nodup) :
    (as.foldl enter ledger).aliases = ledger.aliases ++ as := by
  induction as generalizing ledger with
  | nil => simp
  | cons a as ih =>
      have hnew : ledger.has a.space a.name = false := by
        rw [Bool.eq_false_iff, Ne, has_eq_true_iff]
        rintro ⟨old, hold, hkey⟩
        rw [List.map_append, List.nodup_append] at hkeys
        apply hkeys.2.2 (old.space, old.name) (List.mem_map_of_mem hold) (a.space, a.name)
        · simp
        · rw [hkey.1, hkey.2]
      have henter := enter_new hnew (hmany a List.mem_cons_self) (hnodup a List.mem_cons_self)
      have hassoc : (ledger.enter a).aliases ++ as = ledger.aliases ++ a :: as := by
        rw [henter, List.append_assoc, List.singleton_append]
      rw [List.foldl_cons, ih, hassoc]
      · rw [hassoc]
        exact hkeys
      · exact fun b hb => hmany b (List.mem_cons_of_mem a hb)
      · exact fun b hb => hnodup b (List.mem_cons_of_mem a hb)

/-- Registering members again changes nothing. -/
theorem enter_known {ledger : Ledger} (hdistinct : ledger.Distinct) {a : Alias}
    (ha : a ∈ ledger.aliases) {members : List String} (hsubset : members ⊆ a.members) :
    ledger.enter ⟨a.space, a.name, members⟩ = ledger := by
  apply enter_of_absorbs
  refine ⟨has_eq_true_iff.mpr ⟨a, ha, rfl, rfl⟩, ?_⟩
  intro held hheld hspace hname
  have hsame : held = a := List.inj_on_of_nodup_map hdistinct hheld ha (Prod.ext hspace hname)
  rw [hsame]
  exact hsubset

end Ledger

namespace Prefix

theorem groupAliases_members {catalog : Catalog} {space : String} {a : Alias}
    (ha : a ∈ groupAliases catalog space) :
    Alias.leastMembers ≤ a.members.length ∧ a.members.Nodup := by
  obtain ⟨group, hgroup, rfl⟩ := List.mem_map.mp ha
  obtain ⟨hmany, hnodup, -⟩ := group_of_mem_partition hgroup
  refine ⟨by simpa using hmany, ?_⟩
  exact hnodup.map (fun _ _ => qualify_right_injective)

theorem registrations_members {catalog : Catalog} {a : Alias}
    (ha : a ∈ registrations catalog) :
    Alias.leastMembers ≤ a.members.length ∧ a.members.Nodup := by
  obtain ⟨space, -, hgroup⟩ := List.mem_flatMap.mp ha
  exact groupAliases_members hgroup

theorem many_of_mem_registrations {catalog : Catalog} {a : Alias}
    (ha : a ∈ registrations catalog) : Alias.Many a.members :=
  Alias.many_of_nodup (registrations_members ha).2 (registrations_members ha).1

/-- No two groups call for an alias of the same name. -/
theorem nodup_registrations_keys (catalog : Catalog) :
    ((registrations catalog).map (fun a => (a.space, a.name))).Nodup := by
  rw [registrations, List.map_flatMap, List.nodup_flatMap]
  constructor
  · intro space _
    have hkeys : (groupAliases catalog space).map (fun a => (a.space, a.name)) =
        ((partition (namesOf catalog space)).map (·.start)).map (fun start => (space, start)) := by
      rw [groupAliases, List.map_map, List.map_map]
      rfl
    rw [hkeys]
    apply (nodup_starts_partition _).map
    intro first second hsame
    exact congrArg Prod.snd hsame
  · apply (nodup_sorted_spaces catalog).imp
    intro first second hne key hfirst hsecond
    obtain ⟨a, ha, rfl⟩ := List.mem_map.mp hfirst
    obtain ⟨b, hb, hkey⟩ := List.mem_map.mp hsecond
    apply hne
    rw [← groupAliases_space a ha, ← groupAliases_space b hb]
    exact (congrArg Prod.fst hkey).symm

/-- Inference fills an empty ledger with the groups of all spaces. -/
theorem aliases_infer_empty (catalog : Catalog) :
    (infer { catalog }).registry.ledger.aliases = registrations catalog := by
  rw [infer_ledger, Ledger.foldl_enter_new, List.nil_append]
  · exact nodup_registrations_keys catalog
  · exact fun a ha => (registrations_members ha).1
  · exact fun a ha => (registrations_members ha).2

/-- An alias of a first inference has the prefix and the members of a group. -/
theorem exists_group_of_mem_infer {catalog : Catalog} {a : Alias}
    (ha : a ∈ (infer { catalog }).registry.ledger.aliases) :
    ∃ group ∈ partition (namesOf catalog a.space),
      a = ⟨a.space, group.start, group.members.map (qualify a.space)⟩ := by
  rw [aliases_infer_empty] at ha
  obtain ⟨space, -, hmem⟩ := List.mem_flatMap.mp ha
  have hspace := groupAliases_space a hmem
  subst hspace
  obtain ⟨group, hgroup, hname⟩ := List.mem_map.mp hmem
  exact ⟨group, hgroup, hname.symm⟩

end Prefix
end ApiStubs
