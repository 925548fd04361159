import ApiStubs.Proofs.Prefix.Selection
import Mathlib.Data.List.Permutation

/-!
# A partition sees the set of names

The order of the names and their repetitions reach a partition by one way only, the
order of the members of a candidate.  Which prefixes are candidates is a matter of how
many different names have them, and no two candidates compare alike, so their order is
fixed.  The claims are then made in the same order on both sides, and each finds the same
members free.
-/

namespace ApiStubs
namespace Prefix

variable {first second names : List String}

/-! ## Candidates -/

theorem membersIn_perm (hsame : ∀ name, name ∈ first ↔ name ∈ second) (start : String) :
    (membersIn (occurrences first) start).Perm (membersIn (occurrences second) start) := by
  have hfirst : (membersIn (occurrences first) start).Nodup :=
    Alias.nodup_joinMembers List.nodup_nil _
  have hsecond : (membersIn (occurrences second) start).Nodup :=
    Alias.nodup_joinMembers List.nodup_nil _
  rw [List.perm_ext_iff_of_nodup hfirst hsecond]
  intro name
  rw [mem_membersIn, mem_membersIn, mem_occurrences, mem_occurrences, hsame]

theorem mem_candidate_starts_iff {start : String} :
    start ∈ (candidates names).map (·.start) ↔
      Alias.leastMembers ≤ (membersIn (occurrences names) start).length := by
  constructor
  · intro hmem
    obtain ⟨candidate, hcandidate, rfl⟩ := List.mem_map.mp hmem
    obtain ⟨hmembers, hmany⟩ := mem_candidates_iff.mp hcandidate
    rw [← hmembers]
    exact hmany
  · intro hmany
    exact List.mem_map.mpr ⟨⟨start, membersIn (occurrences names) start⟩,
      mem_candidates_iff.mpr ⟨rfl, hmany⟩, rfl⟩

theorem listedBefore_antisymm {a b : Candidate} (hab : a.listedBefore b = true)
    (hba : b.listedBefore a = true) : a.start = b.start := by
  rw [listedBefore_iff] at hab hba
  rcases hab with hab | ⟨hcount, hle⟩
  · omega
  · rcases hba with hba | ⟨-, hge⟩
    · omega
    · exact Text.unitsLE_antisymm hle hge

theorem candidate_starts_eq (hsame : ∀ name, name ∈ first ↔ name ∈ second) :
    (candidates first).map (·.start) = (candidates second).map (·.start) := by
  let precedes (a b : String) : Prop := Candidate.listedBefore ⟨a, []⟩ ⟨b, []⟩ = true
  have hsorted : ∀ names : List String,
      ((candidates names).map (·.start)).Pairwise precedes := by
    intro names
    rw [List.pairwise_map]
    exact List.pairwise_mergeSort listedBefore_trans listedBefore_total _
  refine List.Perm.eq_of_pairwise ?_ (hsorted first) (hsorted second) ?_
  · intro a b _ _ hab hba
    exact listedBefore_antisymm hab hba
  · rw [List.perm_ext_iff_of_nodup (nodup_candidate_starts first)
      (nodup_candidate_starts second)]
    intro start
    rw [mem_candidate_starts_iff, mem_candidate_starts_iff,
      (membersIn_perm hsame start).length_eq]

/-- A candidate is made from its prefix. -/
theorem candidates_eq_map (names : List String) :
    candidates names = ((candidates names).map (·.start)).map
      (fun start => ⟨start, membersIn (occurrences names) start⟩) := by
  rw [List.map_map]
  conv_lhs => rw [← List.map_id (candidates names)]
  apply List.map_congr_left
  intro candidate hcandidate
  rw [Function.comp_apply, ← (mem_candidates_iff.mp hcandidate).1, id]

theorem forall₂_candidates (hsame : ∀ name, name ∈ first ↔ name ∈ second) :
    List.Forall₂ (fun a b : Candidate => a.start = b.start ∧ a.members.Perm b.members)
      (candidates first) (candidates second) := by
  rw [candidates_eq_map first, candidates_eq_map second, candidate_starts_eq hsame,
    List.forall₂_map_left_iff, List.forall₂_map_right_iff, List.forall₂_same]
  intro start _
  exact ⟨rfl, membersIn_perm hsame start⟩

/-! ## Claims -/

/-- The same prefix, and the same members up to their order. -/
def Group.Alike (a b : Group) : Prop :=
  a.start = b.start ∧ a.members.Perm b.members

theorem claimed_perm {left right : List Group}
    (hgroups : List.Forall₂ Group.Alike left right) :
    (claimed left).Perm (claimed right) := by
  unfold claimed
  induction hgroups with
  | nil => exact List.Perm.refl _
  | cons hfirst _ ih =>
      rw [List.flatMap_cons, List.flatMap_cons]
      exact hfirst.2.append ih

theorem forall₂_claim {left right : List Group} {a b : Candidate}
    (hgroups : List.Forall₂ Group.Alike left right) (hstart : a.start = b.start)
    (hmembers : a.members.Perm b.members) :
    List.Forall₂ Group.Alike (claim left a) (claim right b) := by
  have hfree : (free left a).Perm (free right b) := by
    have hclaimed : ∀ name, (claimed left).contains name = (claimed right).contains name := by
      intro name
      rw [List.contains_eq_mem, List.contains_eq_mem]
      simp only [(claimed_perm hgroups).mem_iff]
    unfold free
    simp only [hclaimed]
    exact hmembers.filter _
  rw [claim_eq, claim_eq, hfree.length_eq]
  split
  next => exact hgroups
  next => exact List.rel_append hgroups (.cons ⟨hstart, hfree⟩ .nil)

/-- Lists of the same names are partitioned into the same groups, in the same order. -/
theorem partition_of_same_names (hsame : ∀ name, name ∈ first ↔ name ∈ second) :
    List.Forall₂ Group.Alike (partition first) (partition second) := by
  have hclaims : ∀ {left right : List Candidate},
      List.Forall₂ (fun a b : Candidate => a.start = b.start ∧ a.members.Perm b.members)
        left right → ∀ {before after : List Group}, List.Forall₂ Group.Alike before after →
          List.Forall₂ Group.Alike (left.foldl claim before) (right.foldl claim after) := by
    intro left right hcandidates
    induction hcandidates with
    | nil => exact fun hgroups => hgroups
    | cons hfirst _ ih => exact fun hgroups => ih (forall₂_claim hgroups hfirst.1 hfirst.2)
  exact hclaims (forall₂_candidates hsame) .nil

/-- A name that is repeated and names in another order: two nested groups on both sides. -/
theorem partition_of_same_names_reordered :
    let first := ["K_U_L", "K_D", "K_U_R", "K_L"]
    let second := ["K_L", "K_U_R", "K_L", "K_U_L", "K_D"]
    (∀ name, name ∈ first ↔ name ∈ second) ∧
      partition first = [⟨"K_U", ["K_U_L", "K_U_R"]⟩, ⟨"K", ["K_D", "K_L"]⟩] ∧
      List.Forall₂ Group.Alike (partition first) (partition second) := by
  intro first second
  have hsame : ∀ name, name ∈ first ↔ name ∈ second := by
    intro name
    simp only [first, second, List.mem_cons, List.not_mem_nil, or_false]
    tauto
  exact ⟨hsame, by cbv, partition_of_same_names hsame⟩

end Prefix
end ApiStubs
