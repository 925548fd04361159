import ApiStubs.Proofs.Prefix.Specific

/-!
# Which prefixes are candidates

A prefix is a text, whichever name it is taken from: its tokens can be read back from it, so
it has the same number of them for every name.  Hence the candidates are told apart by their
prefixes, each has all the names that begin with it, and the order by number of tokens and
then by text is strict.
-/

namespace ApiStubs
namespace Prefix

variable {names : List String} {start name : String} {candidate : Candidate}

instance (start name : String) : Decidable (Heads start name) :=
  decidable_of_iff (start ∈ prefixesOf name) mem_prefixesOf_iff_heads

theorem members_eq_filter_heads (hcandidate : candidate ∈ candidates names) :
    candidate.members = names.eraseDups.filter (fun name => Heads candidate.start name) := by
  rw [(mem_candidates_iff.mp hcandidate).1, membersIn_occurrences]
  simp only [mem_prefixesOf_iff_heads]

/-- The number of tokens does not depend on the name that they are taken from. -/
theorem length_tokens_of_take {count : Nat} (hcount : count ≤ (tokens name).length)
    (hstart : start = joinTokens ((tokens name).take count)) : (tokens start).length = count := by
  rw [hstart, tokens_joinTokens_take, List.length_take, Nat.min_eq_left hcount]

theorem exists_pair_of_candidate (hcandidate : candidate ∈ candidates names) :
    ∃ a ∈ names, ∃ b ∈ names, a ≠ b ∧ Heads candidate.start a ∧ Heads candidate.start b := by
  have hmember : ∀ name ∈ candidate.members, name ∈ names ∧ Heads candidate.start name := by
    intro name hname
    exact (candidate_members hcandidate hname).imp_right mem_prefixesOf_iff_heads.mp
  have hnodup := nodup_candidate_members hcandidate
  have hmany := (mem_candidates_iff.mp hcandidate).2
  match hmembers : candidate.members with
  | [] => simp [hmembers, Alias.leastMembers] at hmany
  | [_] => simp [hmembers, Alias.leastMembers] at hmany
  | a :: b :: rest =>
      rw [hmembers] at hmember hnodup
      obtain ⟨ha, hheadsA⟩ := hmember a (by simp)
      obtain ⟨hb, hheadsB⟩ := hmember b (by simp)
      refine ⟨a, ha, b, hb, ?_, hheadsA, hheadsB⟩
      rintro rfl
      simp at hnodup

theorem mem_candidate_starts_iff_heads :
    start ∈ (candidates names).map (·.start) ↔
      ∃ a ∈ names, ∃ b ∈ names, a ≠ b ∧ Heads start a ∧ Heads start b := by
  constructor
  · intro hmem
    obtain ⟨candidate, hcandidate, rfl⟩ := List.mem_map.mp hmem
    exact exists_pair_of_candidate hcandidate
  · rintro ⟨a, ha, b, hb, hne, hheadsA, hheadsB⟩
    obtain ⟨candidate, hcandidate, hstart, -⟩ := exists_candidate ha hb hne hheadsA hheadsB
    exact List.mem_map.mpr ⟨candidate, hcandidate, hstart⟩

theorem candidates_strict (names : List String) :
    (candidates names).Pairwise (fun a b => b.tokenCount < a.tokenCount ∨
      a.tokenCount = b.tokenCount ∧ Text.compareUnits a.start b.start = .lt) := by
  have hsorted : (candidates names).Pairwise (fun a b => a.listedBefore b = true) :=
    List.pairwise_mergeSort listedBefore_trans listedBefore_total _
  have hdistinct := List.pairwise_map.mp (nodup_candidate_starts names)
  apply hsorted.imp₂ _ hdistinct
  intro a b hbefore hne
  refine (listedBefore_iff.mp hbefore).imp_right ?_
  rintro ⟨hcount, hle⟩
  exact ⟨hcount, Text.compareUnits_eq_lt hle hne⟩

/-- The prefixes that names share, with the names that share them. -/
structure IsShared (names : List String) (shared : List Candidate) : Prop where
  mem_starts_iff : ∀ start, start ∈ shared.map (·.start) ↔
    ∃ a ∈ names, ∃ b ∈ names, a ≠ b ∧ Heads start a ∧ Heads start b
  nodup_starts : (shared.map (·.start)).Nodup
  /-- All names with the prefix, in the order in which they first occur. -/
  members : ∀ candidate ∈ shared,
    candidate.members = names.eraseDups.filter (fun name => Heads candidate.start name)
  /-- The prefix has as many tokens as are taken from any of the names. -/
  tokenCount : ∀ candidate ∈ shared,
    candidate.tokenCount = (tokens candidate.start).length ∧
      ∀ name ∈ candidate.members, ∀ count, 1 ≤ count → count < (tokens name).length →
        candidate.start = joinTokens ((tokens name).take count) → candidate.tokenCount = count
  strict : shared.Pairwise (fun a b => b.tokenCount < a.tokenCount ∨
    a.tokenCount = b.tokenCount ∧ Text.compareUnits a.start b.start = .lt)

theorem isShared_candidates (names : List String) : IsShared names (candidates names) where
  mem_starts_iff _ := mem_candidate_starts_iff_heads
  nodup_starts := nodup_candidate_starts names
  members _ hcandidate := members_eq_filter_heads hcandidate
  tokenCount candidate _ := by
    refine ⟨rfl, ?_⟩
    intro name _ count _ hcount hstart
    exact length_tokens_of_take (Nat.le_of_lt hcount) hstart
  strict := candidates_strict names

/-- Of doubled underscores only the tokens before them make a prefix, and a name that is
given twice is one name. -/
example : candidates ["A__B_C", "A_D", "A__B_E", "A_D", "_A_F"] =
    [⟨"A", ["A__B_C", "A_D", "A__B_E"]⟩] := by
  decide +kernel

end Prefix
end ApiStubs
