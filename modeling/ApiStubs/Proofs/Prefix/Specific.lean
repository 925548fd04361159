import ApiStubs.Proofs.Prefix.Selection

/-!
# The most specific groups

A prefix that two names share is a candidate, and it has its turn before all candidates
with fewer tokens.  So a name that is still free then is claimed by it, unless all other
names with the prefix have gone to groups that are more specific still.
-/

namespace ApiStubs

namespace Alias

/-- What joins the members are the new ones at their first occurrence. -/
theorem joinMembers_eq_append_eraseDups (members new : List String) :
    joinMembers members new = members ++ (new.filter (fun name => name ∉ members)).eraseDups := by
  induction new generalizing members with
  | nil => simp
  | cons first new ih =>
      rw [joinMembers_cons, ih]
      by_cases hfirst : first ∈ members
      · simp [hfirst]
      · have hfilter : new.filter (fun name => name ∉ members ++ [first]) =
            (new.filter (fun name => name ∉ members)).filter (fun name => !name == first) := by
          rw [List.filter_filter]
          apply List.filter_congr
          intro name _
          by_cases hname : name = first <;> simp [hname, hfirst]
        rw [if_neg hfirst, hfilter, List.filter_cons_of_pos (by simpa using hfirst),
          List.eraseDups_cons, List.append_assoc, List.singleton_append]

theorem joinMembers_append (members first second : List String) :
    joinMembers members (first ++ second) = joinMembers (joinMembers members first) second :=
  List.foldl_append

theorem joinMembers_nil_eq_eraseDups (new : List String) : joinMembers [] new = new.eraseDups := by
  simp [joinMembers_eq_append_eraseDups]

end Alias

namespace Prefix

/-- The first tokens of a name, but not all of them, with an underscore behind them in it. -/
def Heads (start name : String) : Prop :=
  ∃ count, 1 ≤ count ∧ count < (tokens name).length ∧
    start = joinTokens ((tokens name).take count) ∧ (start ++ "_").toList <+: name.toList

theorem mem_prefixesOf_iff_heads {start name : String} :
    start ∈ prefixesOf name ↔ Heads start name := by
  simp only [prefixesOf, List.mem_filter, List.mem_map, List.mem_range, Text.startsWith,
    List.isPrefixOf_iff_prefix]
  constructor
  · rintro ⟨⟨n, hn, rfl⟩, hstart⟩
    exact ⟨n + 1, by omega, by omega, rfl, hstart⟩
  · rintro ⟨count, hpos, hcount, rfl, hstart⟩
    refine ⟨⟨count - 1, by omega, ?_⟩, hstart⟩
    rw [Nat.sub_add_cancel hpos, ofLength]

/-- A name has one prefix of each length at most. -/
theorem Heads.eq_of_length {first second name : String} (hfirst : Heads first name)
    (hsecond : Heads second name) (hlength : (tokens first).length = (tokens second).length) :
    first = second := by
  have hbegins : ∀ {start : String}, Heads start name →
      start = joinTokens ((tokens name).take (tokens start).length) := by
    intro start hheads
    have hbegin := begins_of_mem_prefixesOf (mem_prefixesOf_iff_heads.mpr hheads)
    rw [← List.prefix_iff_eq_take.mp hbegin.isPrefix, hbegin.joined]
  rw [hbegins hfirst, hbegins hsecond, hlength]

/-! ## Members in the order of their first occurrence -/

theorem joinMembers_map_const {α : Type} (members : List String) (name : String)
    {occurred : List α} (hne : occurred ≠ []) :
    Alias.joinMembers members (occurred.map (fun _ => name)) =
      if name ∈ members then members else members ++ [name] := by
  rw [Alias.joinMembers_eq_append_eraseDups]
  by_cases hname : name ∈ members
  · simp [hname]
  · have hkept : (occurred.map (fun _ => name)).filter (fun other => other ∉ members) =
        occurred.map (fun _ => name) := by
      rw [List.filter_eq_self]
      intro other hother
      obtain ⟨_, -, rfl⟩ := List.mem_map.mp hother
      simpa using hname
    rw [hkept, Keyed.eraseDups_map_const hne, if_neg hname]

theorem membersIn_occurrences (names : List String) (start : String) :
    membersIn (occurrences names) start =
      names.eraseDups.filter (fun name => start ∈ prefixesOf name) := by
  have hjoin : ∀ (names all : List String),
      Alias.joinMembers (all.filter (fun name => start ∈ prefixesOf name))
          (((occurrences names).filter (·.1 = start)).map (·.2)) =
        (Alias.joinMembers all names).filter (fun name => start ∈ prefixesOf name) := by
    intro names
    induction names with
    | nil => exact fun _ => rfl
    | cons name names ih =>
        intro all
        have hcons : ((occurrences (name :: names)).filter (·.1 = start)).map (·.2) =
            ((prefixesOf name).filter (· = start)).map (fun _ => name) ++
              ((occurrences names).filter (·.1 = start)).map (·.2) := by
          simp only [occurrences, List.flatMap_cons, List.filter_append, List.map_append,
            List.filter_map, List.map_map]
          rfl
        rw [hcons, Alias.joinMembers_append, Alias.joinMembers_cons, ← ih]
        congr 1
        by_cases hstart : start ∈ prefixesOf name
        · have hne : (prefixesOf name).filter (· = start) ≠ [] := by
            simpa [List.filter_eq_nil_iff] using hstart
          rw [joinMembers_map_const _ _ hne]
          by_cases hname : name ∈ all
          · simp [hname, hstart]
          · simp [hname, hstart]
        · have hnil : (prefixesOf name).filter (· = start) = [] := by
            rw [List.filter_eq_nil_iff]
            intro other hother
            have hne : other ≠ start := by
              rintro rfl
              exact hstart hother
            simpa using hne
          rw [hnil]
          by_cases hname : name ∈ all
          · simp [hname]
          · simp [hname, hstart]
  rw [← Alias.joinMembers_nil_eq_eraseDups, ← hjoin names []]
  rfl

theorem candidate_members_sublist {names : List String} {candidate : Candidate}
    (hcandidate : candidate ∈ candidates names) :
    candidate.members.Sublist names.eraseDups := by
  rw [(mem_candidates_iff.mp hcandidate).1, membersIn_occurrences]
  exact List.filter_sublist

/-! ## The turn of a candidate -/

/-- A prefix of two names has its turn. -/
theorem exists_candidate {names : List String} {start a b : String} (ha : a ∈ names)
    (hb : b ∈ names) (hne : a ≠ b) (hheadsA : Heads start a) (hheadsB : Heads start b) :
    ∃ candidate ∈ candidates names,
      candidate.start = start ∧ a ∈ candidate.members ∧ b ∈ candidate.members := by
  let candidate : Candidate := ⟨start, membersIn (occurrences names) start⟩
  have hmember : ∀ name ∈ names, Heads start name → name ∈ candidate.members := by
    intro name hname hheads
    exact mem_membersIn.mpr (mem_occurrences.mpr ⟨hname, mem_prefixesOf_iff_heads.mpr hheads⟩)
  have hpair : [a, b] ⊆ candidate.members := by
    simpa using ⟨hmember a ha hheadsA, hmember b hb hheadsB⟩
  have hmany : Alias.leastMembers ≤ candidate.members.length :=
    (List.subperm_of_subset (by simpa using hne) hpair).length_le
  exact ⟨candidate, mem_candidates_iff.mpr ⟨rfl, hmany⟩, rfl, hmember a ha hheadsA,
    hmember b hb hheadsB⟩

/-- Groups stay as they are. -/
theorem isPrefix_foldl_claim (groups : List Group) (rest : List Candidate) :
    groups <+: rest.foldl claim groups := by
  induction rest generalizing groups with
  | nil => exact List.prefix_rfl
  | cons candidate rest ih =>
      apply List.IsPrefix.trans _ (ih (claim groups candidate))
      rw [claim_eq]
      split
      next => exact List.prefix_rfl
      next => exact List.prefix_append _ _

theorem subset_partition {names : List String} {before after : List Candidate}
    (hall : candidates names = before ++ after) : before.foldl claim [] ⊆ partition names := by
  rw [partition, hall, List.foldl_append]
  exact (isPrefix_foldl_claim _ _).subset

theorem mem_claimed {groups : List Group} {name : String} :
    name ∈ claimed groups ↔ ∃ group ∈ groups, name ∈ group.members :=
  List.mem_flatMap

theorem claimed_subset_foldl (groups : List Group) (rest : List Candidate) :
    claimed groups ⊆ claimed (rest.foldl claim groups) := by
  intro name hname
  obtain ⟨group, hgroup, hmem⟩ := mem_claimed.mp hname
  exact mem_claimed.mpr ⟨group, (isPrefix_foldl_claim groups rest).subset hgroup, hmem⟩

/-- A candidate leaves a member free only if all its other members were claimed before. -/
theorem claimed_of_unclaimed {groups : List Group} {candidate : Candidate} {a b : String}
    (ha : a ∈ candidate.members) (hb : b ∈ candidate.members) (hne : a ≠ b)
    (hunclaimed : a ∉ claimed (claim groups candidate)) : b ∈ claimed groups := by
  by_contra hfreeB
  have hfreeA : a ∉ claimed groups := fun hmem =>
    hunclaimed (claimed_subset_claim groups candidate hmem)
  have hpair : [a, b] ⊆ free groups candidate := by
    simpa using ⟨mem_free.mpr ⟨ha, hfreeA⟩, mem_free.mpr ⟨hb, hfreeB⟩⟩
  have hmany : Alias.leastMembers ≤ (free groups candidate).length :=
    (List.subperm_of_subset (by simpa using hne) hpair).length_le
  apply hunclaimed
  rw [claim_eq, if_neg (Nat.not_lt_of_le hmany), mem_claimed]
  exact ⟨_, List.mem_append_right _ (List.mem_singleton_self _), hpair List.mem_cons_self⟩

/-- No name is claimed twice. -/
theorem pairwise_disjoint_foldl_claim (all : List Candidate) :
    (all.foldl claim []).Pairwise (fun a b => a.members.Disjoint b.members) := by
  induction all using List.reverseRecOn with
  | nil => exact List.Pairwise.nil
  | append_singleton all last ih =>
      rw [List.foldl_append, List.foldl_cons, List.foldl_nil, claim_eq]
      split
      next => exact ih
      next =>
        rw [List.pairwise_append]
        refine ⟨ih, List.pairwise_singleton _ _, ?_⟩
        intro group hgroup new hnew name hold hmem
        rw [List.mem_singleton] at hnew
        subst hnew
        exact (mem_free.mp hmem).2 (mem_claimed.mpr ⟨group, hgroup, hold⟩)

/-- A group of earlier candidates has a longer prefix than a later candidate for its member. -/
theorem longer_of_mem_before {names : List String} {before after : List Candidate}
    {candidate : Candidate} (hall : candidates names = before ++ candidate :: after)
    {group : Group} (hgroup : group ∈ before.foldl claim []) {name : String}
    (hname : name ∈ group.members) (hmember : name ∈ candidate.members) :
    candidate.tokenCount < (tokens group.start).length := by
  obtain ⟨earlier, other, later, hbefore, rfl, -⟩ := exists_of_mem_foldl_claim hgroup
  have hother : other ∈ before := by simp [hbefore]
  have hmem : other ∈ candidates names := by simp [hall, hother]
  have hcandidate : candidate ∈ candidates names := by simp [hall]
  have hordered := candidates_ordered names
  have hstarts := nodup_candidate_starts names
  rw [hall] at hordered hstarts
  have hle : candidate.tokenCount ≤ other.tokenCount :=
    (List.pairwise_append.mp hordered).2.2 other hother candidate List.mem_cons_self
  have hne : other.start ≠ candidate.start := by
    rw [List.map_append, List.nodup_append] at hstarts
    exact hstarts.2.2 _ (List.mem_map_of_mem hother) _ (by simp)
  have hheads := mem_prefixesOf_iff_heads.mp (candidate_members hmem (mem_free.mp hname).1).2
  have hheads' := mem_prefixesOf_iff_heads.mp (candidate_members hcandidate hmember).2
  apply Nat.lt_of_le_of_ne hle
  intro hlength
  exact hne (hheads.eq_of_length hheads' hlength.symm)

/-! ## The partition -/

/-- A partition of names into groups with a common prefix, the most specific ones first. -/
structure IsPartition (names : List String) (groups : List Group) : Prop where
  starts_nodup : (groups.map (·.start)).Nodup
  two_le_length : ∀ group ∈ groups, 2 ≤ group.members.length
  heads : ∀ group ∈ groups, ∀ name ∈ group.members, Heads group.start name
  /-- The members are names of the list at their first occurrence, in this order. -/
  sublist : ∀ group ∈ groups, group.members.Sublist names.eraseDups
  disjoint : groups.Pairwise (fun a b => a.members.Disjoint b.members)
  /-- No prefix is left that could name another group. -/
  maximal : ∀ start, ∀ a ∈ names, ∀ b ∈ names, a ≠ b → Heads start a → Heads start b →
    ∃ group ∈ groups, a ∈ group.members ∨ b ∈ group.members
  /-- A name misses a longer prefix only if all others with it are in groups of longer ones. -/
  specific : ∀ group ∈ groups, ∀ name ∈ group.members, ∀ start, Heads start name →
    (tokens group.start).length < (tokens start).length →
      ∀ other ∈ names, other ≠ name → Heads start other →
        ∃ longer ∈ groups, other ∈ longer.members ∧
          (tokens start).length < (tokens longer.start).length

theorem maximal_partition {names : List String} {start a b : String} (ha : a ∈ names)
    (hb : b ∈ names) (hne : a ≠ b) (hheadsA : Heads start a) (hheadsB : Heads start b) :
    ∃ group ∈ partition names, a ∈ group.members ∨ b ∈ group.members := by
  obtain ⟨candidate, hcandidate, -, hmemA, hmemB⟩ := exists_candidate ha hb hne hheadsA hheadsB
  obtain ⟨before, after, hall⟩ := List.append_of_mem hcandidate
  by_cases hclaimed : a ∈ claimed (claim (before.foldl claim []) candidate)
  · obtain ⟨group, hgroup, hmem⟩ := mem_claimed.mp hclaimed
    refine ⟨group, ?_, .inl hmem⟩
    rw [partition, hall, List.foldl_append, List.foldl_cons]
    exact (isPrefix_foldl_claim _ _).subset hgroup
  · have hearlier := claimed_of_unclaimed hmemA hmemB hne hclaimed
    obtain ⟨group, hgroup, hmem⟩ := mem_claimed.mp hearlier
    exact ⟨group, subset_partition hall hgroup, .inr hmem⟩

theorem specific_partition {names : List String} {group : Group}
    (hgroup : group ∈ partition names) {name other start : String}
    (hname : name ∈ group.members) (hheads : Heads start name)
    (hlonger : (tokens group.start).length < (tokens start).length) (hother : other ∈ names)
    (hne : other ≠ name) (hheadsOther : Heads start other) :
    ∃ longer ∈ partition names, other ∈ longer.members ∧
      (tokens start).length < (tokens longer.start).length := by
  have hmem : name ∈ names := (group_members hgroup hname).1
  obtain ⟨before, candidate, after, hall, rfl, -⟩ := exists_of_mem_foldl_claim hgroup
  obtain ⟨turn, hturn, rfl, hturnOther, hturnName⟩ :=
    exists_candidate hother hmem hne hheadsOther hheads
  obtain ⟨earlier, later, rfl⟩ := List.append_of_mem (mem_before_of_longer hall hturn hlonger)
  -- The longer prefix has had its turn, and the name is free to this moment.
  have hunclaimed := (mem_free.mp hname).2
  have hclaimed : other ∈ claimed (earlier.foldl claim []) := by
    apply claimed_of_unclaimed hturnName hturnOther hne.symm
    intro hmem
    apply hunclaimed
    rw [List.foldl_append, List.foldl_cons]
    exact claimed_subset_foldl _ _ hmem
  obtain ⟨longer, hlongerMem, hmember⟩ := mem_claimed.mp hclaimed
  have hsplit : candidates names = earlier ++ turn :: (later ++ candidate :: after) := by
    rw [hall, List.append_assoc, List.cons_append]
  exact ⟨longer, subset_partition hsplit hlongerMem, hmember,
    longer_of_mem_before hsplit hlongerMem hmember hturnOther⟩

/-- Names are partitioned by their most specific prefixes. -/
theorem isPartition_partition (names : List String) : IsPartition names (partition names) where
  starts_nodup := nodup_starts_partition names
  two_le_length _ hgroup := (group_of_mem_partition hgroup).1
  heads _ hgroup name hname :=
    mem_prefixesOf_iff_heads.mp ((group_of_mem_partition hgroup).2.2 name hname).2
  sublist group hgroup := by
    obtain ⟨before, candidate, after, hall, rfl, -⟩ := exists_of_mem_foldl_claim hgroup
    have hcandidate : candidate ∈ candidates names := by simp [hall]
    exact List.filter_sublist.trans (candidate_members_sublist hcandidate)
  disjoint := pairwise_disjoint_foldl_claim (candidates names)
  maximal _ _ ha _ hb hne hheadsA hheadsB := maximal_partition ha hb hne hheadsA hheadsB
  specific _ hgroup _ hname _ hheads hlonger _ hother hne hheadsOther :=
    specific_partition hgroup hname hheads hlonger hother hne hheadsOther

end Prefix
end ApiStubs
