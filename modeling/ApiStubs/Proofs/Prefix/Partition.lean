import ApiStubs.Prefix.Partition
import ApiStubs.Proofs.Alias
import ApiStubs.Proofs.Prefix.Tokens

/-!
# What the groups of a partition hold

A group holds names of the partitioned list, and each of them begins with the
tokens of its prefix.
-/

namespace ApiStubs
namespace Prefix

theorem begins_of_mem_prefixesOf {name start : String}
    (hmem : start ∈ prefixesOf name) : Begins start name := by
  simp only [prefixesOf, List.mem_filter, List.mem_map, List.mem_range] at hmem
  obtain ⟨⟨n, hn, rfl⟩, -⟩ := hmem
  apply Begins.of_isPrefix
  · have hlength : 0 < (tokens name).length := by omega
    simpa using List.length_pos_iff.mp hlength
  · exact List.take_prefix _ _

theorem mem_prefixesOf_iff {name start : String} :
    start ∈ prefixesOf name ↔
      Begins start name ∧ (tokens start).length < (tokens name).length ∧
        Text.startsWith name (start ++ "_") = true := by
  constructor
  · intro hmem
    refine ⟨begins_of_mem_prefixesOf hmem, ?_⟩
    simp only [prefixesOf, List.mem_filter, List.mem_map, List.mem_range] at hmem
    obtain ⟨⟨n, hn, rfl⟩, hstart⟩ := hmem
    have htokens : tokens (ofLength name (n + 1)) = (tokens name).take (n + 1) :=
      tokens_joinTokens_take name (n + 1)
    refine ⟨?_, hstart⟩
    rw [htokens, List.length_take]
    omega
  · rintro ⟨hbegins, hshorter, hstart⟩
    have hpos := List.length_pos_iff.mpr hbegins.ne_nil
    have htake : ofLength name (tokens start).length = start := by
      rw [ofLength, ← List.prefix_iff_eq_take.mp hbegins.isPrefix]
      exact hbegins.joined
    simp only [prefixesOf, List.mem_filter, List.mem_map, List.mem_range]
    refine ⟨⟨(tokens start).length - 1, by omega, ?_⟩, hstart⟩
    rw [Nat.sub_add_cancel hpos, htake]

theorem mem_occurrences {names : List String} {start name : String} :
    (start, name) ∈ occurrences names ↔ name ∈ names ∧ start ∈ prefixesOf name := by
  simp only [occurrences, List.mem_flatMap, List.mem_map, Prod.mk.injEq]
  constructor
  · rintro ⟨other, hother, found, hfound, rfl, rfl⟩
    exact ⟨hother, hfound⟩
  · rintro ⟨hname, hstart⟩
    exact ⟨name, hname, start, hstart, rfl, rfl⟩

theorem mem_membersIn {found : List (String × String)} {start name : String} :
    name ∈ membersIn found start ↔ (start, name) ∈ found := by
  simp [membersIn]

theorem candidate_members {names : List String} {candidate : Candidate}
    (hcandidate : candidate ∈ candidates names) {name : String}
    (hname : name ∈ candidate.members) :
    name ∈ names ∧ candidate.start ∈ prefixesOf name := by
  simp only [candidates, List.mem_mergeSort, List.mem_filter, List.mem_map] at hcandidate
  obtain ⟨⟨start, -, rfl⟩, -⟩ := hcandidate
  exact mem_occurrences.mp (mem_membersIn.mp hname)

/-- The group names the prefix of a candidate and holds some of its members. -/
def Group.TakenFrom (names : List String) (group : Group) : Prop :=
  ∃ candidate ∈ candidates names,
    group.start = candidate.start ∧ group.members ⊆ candidate.members

theorem claim_takenFrom {names : List String} {groups : List Group}
    {candidate : Candidate} (hcandidate : candidate ∈ candidates names)
    (hgroups : ∀ group ∈ groups, group.TakenFrom names) :
    ∀ group ∈ claim groups candidate, group.TakenFrom names := by
  intro group hgroup
  unfold claim at hgroup
  simp only at hgroup
  split at hgroup
  next => exact hgroups group hgroup
  next =>
    rcases List.mem_append.mp hgroup with hold | hnew
    · exact hgroups group hold
    · rw [List.mem_singleton] at hnew
      subst hnew
      exact ⟨candidate, hcandidate, rfl, List.filter_sublist.subset⟩

theorem partition_takenFrom {names : List String} {group : Group}
    (hgroup : group ∈ partition names) : group.TakenFrom names := by
  have hall : ∀ group ∈ partition names, group.TakenFrom names :=
    List.foldlRecOn (motive := fun groups => ∀ group ∈ groups, group.TakenFrom names)
      (candidates names) claim (by simp)
      (fun _ hgroups _ hcandidate => claim_takenFrom hcandidate hgroups)
  exact hall group hgroup

theorem group_members {names : List String} {group : Group}
    (hgroup : group ∈ partition names) {name : String} (hname : name ∈ group.members) :
    name ∈ names ∧ Begins group.start name := by
  obtain ⟨candidate, hcandidate, hstart, hsubset⟩ := partition_takenFrom hgroup
  obtain ⟨hmem, hbegin⟩ := candidate_members hcandidate (hsubset hname)
  exact ⟨hmem, hstart ▸ begins_of_mem_prefixesOf hbegin⟩

end Prefix
end ApiStubs
