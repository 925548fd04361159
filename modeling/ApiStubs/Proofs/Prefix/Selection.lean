import ApiStubs.Proofs.Keyed
import ApiStubs.Proofs.Prefix.Partition
import ApiStubs.Proofs.Text.UnitOrder
import Mathlib.Data.List.Induction
import Mathlib.Data.List.Perm.Subperm

/-!
# Which groups a partition selects

The candidates are claimed one after the other, those with more tokens first.  Once a
candidate has had its turn, fewer than two of its members are free, now and ever
after.  So the members of a group share no prefix with more tokens than the one that
the group is named for.
-/

namespace ApiStubs
namespace Prefix

/-! ## The candidates and their order -/

theorem mem_candidates_iff {names : List String} {candidate : Candidate} :
    candidate ∈ candidates names ↔
      candidate.members = membersIn (occurrences names) candidate.start ∧
        Alias.leastMembers ≤ candidate.members.length := by
  simp only [candidates, List.mem_mergeSort, List.mem_filter, List.mem_map,
    List.mem_eraseDups, decide_eq_true_eq]
  constructor
  · rintro ⟨⟨start, -, rfl⟩, hmany⟩
    exact ⟨rfl, hmany⟩
  · rintro ⟨hmembers, hmany⟩
    have hpos : 0 < candidate.members.length := Nat.lt_of_lt_of_le (by decide) hmany
    obtain ⟨name, hname⟩ := List.exists_mem_of_length_pos hpos
    rw [hmembers, mem_membersIn] at hname
    refine ⟨⟨candidate.start, ⟨_, hname, rfl⟩, ?_⟩, hmany⟩
    rw [← hmembers]

theorem nodup_candidate_members {names : List String} {candidate : Candidate}
    (hcandidate : candidate ∈ candidates names) : candidate.members.Nodup := by
  rw [(mem_candidates_iff.mp hcandidate).1]
  exact Alias.nodup_joinMembers List.nodup_nil _

theorem nodup_candidate_starts (names : List String) :
    ((candidates names).map (·.start)).Nodup := by
  apply List.Nodup.map_on
  · intro a ha b hb hstart
    have hmembers : a.members = b.members := by
      rw [(mem_candidates_iff.mp ha).1, (mem_candidates_iff.mp hb).1, hstart]
    cases a
    cases b
    rw [Candidate.mk.injEq]
    exact ⟨hstart, hmembers⟩
  · have hperm := List.mergeSort_perm (((((occurrences names).map (·.1)).eraseDups).map
      (fun start => Candidate.mk start (membersIn (occurrences names) start))).filter
        (fun candidate => Alias.leastMembers ≤ candidate.members.length))
      Candidate.listedBefore
    apply hperm.nodup_iff.mpr
    apply List.Nodup.filter
    apply (Keyed.nodup_eraseDups _).map
    intro first second hsame
    exact congrArg Candidate.start hsame

theorem listedBefore_iff {a b : Candidate} :
    a.listedBefore b = true ↔
      b.tokenCount < a.tokenCount ∨
        a.tokenCount = b.tokenCount ∧ Text.unitsLE a.start b.start = true := by
  simp [Candidate.listedBefore]

theorem listedBefore_trans (a b c : Candidate) (hab : a.listedBefore b = true)
    (hbc : b.listedBefore c = true) : a.listedBefore c = true := by
  rw [listedBefore_iff] at hab hbc ⊢
  rcases hab with hab | ⟨hab, hle⟩
  · left
    rcases hbc with hbc | ⟨hbc, -⟩ <;> omega
  · rcases hbc with hbc | ⟨hbc, hle'⟩
    · left
      omega
    · exact .inr ⟨hab.trans hbc, Text.unitsLE_trans _ _ _ hle hle'⟩

theorem listedBefore_total (a b : Candidate) :
    (a.listedBefore b || b.listedBefore a) = true := by
  rw [Bool.or_eq_true, listedBefore_iff, listedBefore_iff]
  rcases Nat.lt_trichotomy a.tokenCount b.tokenCount with hlt | heq | hgt
  · exact .inr (.inl hlt)
  · have htotal := Text.unitsLE_total a.start b.start
    rw [Bool.or_eq_true] at htotal
    rcases htotal with hle | hle
    · exact .inl (.inr ⟨heq, hle⟩)
    · exact .inr (.inr ⟨heq.symm, hle⟩)
  · exact .inl (.inl hgt)

theorem candidates_ordered (names : List String) :
    (candidates names).Pairwise (fun a b => b.tokenCount ≤ a.tokenCount) := by
  have hsorted : (candidates names).Pairwise (fun a b => a.listedBefore b = true) :=
    List.pairwise_mergeSort listedBefore_trans listedBefore_total _
  apply hsorted.imp
  intro a b hbefore
  rcases listedBefore_iff.mp hbefore with hlt | ⟨heq, -⟩ <;> omega

/-! ## Claiming -/

/-- The members of a candidate that no group has. -/
def free (groups : List Group) (candidate : Candidate) : List String :=
  candidate.members.filter (fun name => !(claimed groups).contains name)

theorem claim_eq (groups : List Group) (candidate : Candidate) :
    claim groups candidate =
      if (free groups candidate).length < Alias.leastMembers then groups
      else groups ++ [⟨candidate.start, free groups candidate⟩] := rfl

theorem mem_free {groups : List Group} {candidate : Candidate} {name : String} :
    name ∈ free groups candidate ↔ name ∈ candidate.members ∧ name ∉ claimed groups := by
  simp [free]

/-- What is claimed stays claimed. -/
theorem claimed_subset_claim (groups : List Group) (candidate : Candidate) :
    claimed groups ⊆ claimed (claim groups candidate) := by
  rw [claim_eq]
  split
  next => exact List.Subset.refl _
  next =>
    unfold claimed
    rw [List.flatMap_append]
    exact List.subset_append_left _ _

theorem free_claim_sublist (groups : List Group) (candidate other : Candidate) :
    (free (claim groups other) candidate).Sublist (free groups candidate) := by
  apply List.monotone_filter_right
  intro name hfree
  have hsubset := claimed_subset_claim groups other (a := name)
  simp only [List.contains_eq_mem, Bool.not_eq_true', decide_eq_false_iff_not] at hfree ⊢
  exact fun hclaimed => hfree (hsubset hclaimed)

/-- After its turn a candidate has too few free members for a group. -/
theorem free_claim_self (groups : List Group) (candidate : Candidate) :
    (free (claim groups candidate) candidate).length < Alias.leastMembers := by
  by_cases hfew : (free groups candidate).length < Alias.leastMembers
  · rw [claim_eq, if_pos hfew]
    exact hfew
  · have hnone : free (claim groups candidate) candidate = [] := by
      rw [List.eq_nil_iff_forall_not_mem]
      intro name hname
      obtain ⟨hmember, hunclaimed⟩ := mem_free.mp hname
      apply hunclaimed
      rw [claim_eq, if_neg hfew]
      unfold claimed
      rw [List.flatMap_append, List.mem_append]
      by_cases hclaimed : name ∈ claimed groups
      · exact .inl hclaimed
      · right
        simpa using mem_free.mpr ⟨hmember, hclaimed⟩
    rw [hnone]
    decide

/-- No candidate that has had its turn can form another group. -/
theorem free_foldl_claim {taken : List Candidate} {candidate : Candidate}
    (htaken : candidate ∈ taken) :
    (free (taken.foldl claim []) candidate).length < Alias.leastMembers := by
  induction taken using List.reverseRecOn with
  | nil => simp at htaken
  | append_singleton taken last ih =>
      rw [List.foldl_append, List.foldl_cons, List.foldl_nil]
      rcases List.mem_append.mp htaken with hearlier | hlast
      · have hsublist := free_claim_sublist (taken.foldl claim []) candidate last
        have hlength := hsublist.length_le
        have hfew := ih hearlier
        omega
      · rw [List.mem_singleton] at hlast
        subst hlast
        exact free_claim_self _ candidate

/-- A group holds what was free when its candidate had its turn. -/
theorem exists_of_mem_foldl_claim {all : List Candidate} {group : Group}
    (hgroup : group ∈ all.foldl claim []) :
    ∃ before candidate after, all = before ++ candidate :: after ∧
      group = ⟨candidate.start, free (before.foldl claim []) candidate⟩ ∧
      Alias.leastMembers ≤ group.members.length := by
  induction all using List.reverseRecOn with
  | nil => simp at hgroup
  | append_singleton all last ih =>
      rw [List.foldl_append, List.foldl_cons, List.foldl_nil, claim_eq] at hgroup
      have hearlier : group ∈ all.foldl claim [] →
          ∃ before candidate after, all ++ [last] = before ++ candidate :: after ∧
            group = ⟨candidate.start, free (before.foldl claim []) candidate⟩ ∧
            Alias.leastMembers ≤ group.members.length := by
        intro hmem
        obtain ⟨before, candidate, after, hall, hrest⟩ := ih hmem
        refine ⟨before, candidate, after ++ [last], ?_, hrest⟩
        rw [hall, List.append_assoc, List.cons_append]
      split at hgroup
      next => exact hearlier hgroup
      next hmany =>
        rcases List.mem_append.mp hgroup with hold | hnew
        · exact hearlier hold
        · rw [List.mem_singleton] at hnew
          subst hnew
          exact ⟨all, last, [], rfl, rfl, Nat.le_of_not_lt hmany⟩

/-! ## Groups -/

theorem group_of_mem_partition {names : List String} {group : Group}
    (hgroup : group ∈ partition names) :
    Alias.leastMembers ≤ group.members.length ∧ group.members.Nodup ∧
      ∀ name ∈ group.members, name ∈ names ∧ group.start ∈ prefixesOf name := by
  obtain ⟨before, candidate, after, hall, rfl, hmany⟩ := exists_of_mem_foldl_claim hgroup
  have hcandidate : candidate ∈ candidates names := by simp [hall]
  refine ⟨hmany, (nodup_candidate_members hcandidate).filter _, ?_⟩
  intro name hname
  exact candidate_members hcandidate (mem_free.mp hname).1

theorem exists_begins_of_group {names : List String} {group : Group}
    (hgroup : group ∈ partition names) : ∃ name ∈ group.members, Begins group.start name := by
  have hmany := (group_of_mem_partition hgroup).1
  have hpos : 0 < group.members.length := Nat.lt_of_lt_of_le (by decide) hmany
  obtain ⟨name, hname⟩ := List.exists_mem_of_length_pos hpos
  exact ⟨name, hname, (group_members hgroup hname).2⟩

/-- Each prefix names one group at most. -/
theorem nodup_starts_partition (names : List String) :
    ((partition names).map (·.start)).Nodup := by
  have hsublist : ∀ (all : List Candidate) (groups : List Group),
      ((all.foldl claim groups).map (·.start)).Sublist
        (groups.map (·.start) ++ all.map (·.start)) := by
    intro all
    induction all with
    | nil => simp
    | cons candidate rest ih =>
        intro groups
        apply (ih (claim groups candidate)).trans
        rw [List.map_cons, claim_eq]
        split
        next => exact (List.sublist_cons_self _ _).append_left _
        next => simp
  exact (hsublist (candidates names) []).nodup (nodup_candidate_starts names)

/-- A candidate with more tokens has its turn before. -/
theorem mem_before_of_longer {names : List String} {before after : List Candidate}
    {candidate longer : Candidate} (hall : candidates names = before ++ candidate :: after)
    (hlonger : longer ∈ candidates names) (hcount : candidate.tokenCount < longer.tokenCount) :
    longer ∈ before := by
  have hordered := candidates_ordered names
  rw [hall] at hlonger hordered
  rcases List.mem_append.mp hlonger with hbefore | hlater
  · exact hbefore
  · exfalso
    rcases List.mem_cons.mp hlater with rfl | hafter
    · exact Nat.lt_irrefl _ hcount
    · have htail := (List.pairwise_append.mp hordered).2.1
      have hle := (List.pairwise_cons.mp htail).1 longer hafter
      omega

/-- A prefix that all members of a group have has no more tokens than that of the group. -/
theorem length_tokens_le_of_group {names : List String} {group : Group}
    (hgroup : group ∈ partition names) {start : String}
    (hshared : ∀ name ∈ group.members, start ∈ prefixesOf name) :
    (tokens start).length ≤ (tokens group.start).length := by
  by_contra hlonger
  have hnames := (group_of_mem_partition hgroup).2.2
  have hnodup := (group_of_mem_partition hgroup).2.1
  obtain ⟨before, candidate, after, hall, hgroupEq, hmany⟩ := exists_of_mem_foldl_claim hgroup
  have hstart : candidate.start = group.start := by rw [hgroupEq]
  -- The longer prefix is a candidate too, and it had its turn before.
  let other : Candidate := ⟨start, membersIn (occurrences names) start⟩
  have hmembers : group.members ⊆ other.members := by
    intro name hname
    rw [mem_membersIn, mem_occurrences]
    exact ⟨(hnames name hname).1, hshared name hname⟩
  have hother : other ∈ candidates names := by
    rw [mem_candidates_iff]
    exact ⟨rfl, hmany.trans (List.subperm_of_subset hnodup hmembers).length_le⟩
  have hbefore : other ∈ before := by
    apply mem_before_of_longer hall hother
    rw [← hstart] at hlonger
    exact Nat.lt_of_not_le hlonger
  have hfew := free_foldl_claim hbefore
  have hfree : group.members ⊆ free (before.foldl claim []) other := by
    intro name hname
    have hunclaimed : name ∉ claimed (before.foldl claim []) := by
      rw [hgroupEq] at hname
      exact (mem_free.mp hname).2
    exact mem_free.mpr ⟨hmembers hname, hunclaimed⟩
  have hlength := (List.subperm_of_subset hnodup hfree).length_le
  omega

end Prefix
end ApiStubs
