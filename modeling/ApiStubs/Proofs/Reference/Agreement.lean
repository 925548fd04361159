import ApiStubs.Proofs.Prefix.Groups
import ApiStubs.Proofs.Reference.CommonRun
import Mathlib.Data.Set.List

/-!
# Inferred aliases and folded type lists

Inference names an alias for a prefix that its members have as proper beginnings of
their texts, and folding names one for the longest run of tokens that they share.
A type list made of the members of an inferred alias is therefore folded into that
alias exactly if the longest run is such a prefix of all of them.
-/

namespace ApiStubs

namespace Prefix

variable {names : List String} {group : Group}

/-- The longest run of a group goes on from its prefix. -/
theorem commonRun_of_group (hgroup : group ∈ partition names) :
    ∃ run, commonRun group.members = some run ∧ tokens group.start <+: tokens run := by
  obtain ⟨name, hname, hbegins⟩ := exists_begins_of_group hgroup
  have hstart : tokens group.start <+: commonTokens group.members := by
    rw [isPrefix_commonTokens_iff (List.ne_nil_of_mem hname)]
    exact fun other hother => (group_members hgroup hother).2.isPrefix
  have hne : commonTokens group.members ≠ [] := by
    intro hnil
    rw [hnil, List.prefix_nil] at hstart
    exact hbegins.ne_nil hstart
  refine ⟨_, commonRun_of_ne_nil hne, ?_⟩
  rw [tokens_joinTokens_commonTokens]
  exact hstart

/-- It is the prefix of the group exactly if it is one of every member. -/
theorem commonRun_eq_start_iff (hgroup : group ∈ partition names) {run : String}
    (hrun : commonRun group.members = some run)
    (hstart : tokens group.start <+: tokens run) :
    run = group.start ↔ ∀ name ∈ group.members,
      (tokens run).length < (tokens name).length ∧
        Text.startsWith name (run ++ "_") = true := by
  have hprefix : ∀ name ∈ group.members, (run ∈ prefixesOf name ↔
      (tokens run).length < (tokens name).length ∧
        Text.startsWith name (run ++ "_") = true) := by
    intro name hname
    rw [mem_prefixesOf_iff, and_iff_right (begins_of_commonRun hrun hname)]
  rw [← forall₂_congr hprefix]
  constructor
  · rintro rfl name hname
    exact ((group_of_mem_partition hgroup).2.2 name hname).2
  · intro hshared
    obtain ⟨name, hname, hbegins⟩ := exists_begins_of_group hgroup
    have htokens : tokens group.start = tokens run :=
      hstart.eq_of_length_le (length_tokens_le_of_group hgroup hshared)
    calc
      run = joinTokens (tokens run) := (begins_of_commonRun hrun hname).joined.symm
      _ = joinTokens (tokens group.start) := by rw [htokens]
      _ = group.start := hbegins.joined

end Prefix

namespace Reference

/-- A reordering of the full names of a space is made of a reordering of the names. -/
theorem exists_perm_of_map_qualify {space : String} {names types : List String}
    (hperm : types.Perm (names.map (qualify space))) :
    ∃ ordered : List String, types = ordered.map (qualify space) ∧ ordered.Perm names := by
  have hrange : types ∈ Set.range (List.map (qualify space)) := by
    rw [Set.range_list_map]
    intro type htype
    obtain ⟨name, -, rfl⟩ := List.mem_map.mp (hperm.subset htype)
    exact ⟨name, rfl⟩
  obtain ⟨ordered, rfl⟩ := hrange
  have hinjective : Function.Injective (qualify space) := fun _ _ => qualify_right_injective
  exact ⟨ordered, rfl, (List.map_perm_map_iff hinjective).mp hperm⟩

/--
The members of an inferred alias are folded into the alias of their longest run, which
takes them all.  That alias is the inferred one, and nothing changes, exactly if the run
ends before the end of each member and an underscore follows it.
-/
theorem fold_members_of_inferred (elements : List (String × String)) {a : Alias}
    {request : Request}
    (ha : a ∈ (Prefix.infer { catalog := Catalog.ofElements elements }).registry.ledger.aliases)
    (hdeclared : request.declared.Perm a.members) :
    let inferred := (Prefix.infer { catalog := Catalog.ofElements elements }).registry
    ∃ names run, a.members = names.map (qualify a.space) ∧
      Prefix.commonRun names = some run ∧
      Prefix.tokens a.name <+: Prefix.tokens run ∧
      fold inferred request =
        ({ inferred with
            ledger := inferred.ledger.enter ⟨a.space, run, request.declared⟩ },
          ⟨[qualify a.space run, Primitive.integer.name], [qualify a.space run],
            some .integer⟩) ∧
      (run = a.name ↔ ∀ name ∈ names,
        (Prefix.tokens run).length < (Prefix.tokens name).length ∧
          Text.startsWith name (run ++ "_") = true) ∧
      (run = a.name → fold inferred request =
        (inferred, ⟨[a.fullName, Primitive.integer.name], [a.fullName], some .integer⟩)) := by
  intro inferred
  have hwell : inferred.WellFormed :=
    Prefix.wellFormed_infer (Registry.wellFormed_ofElements elements)
  obtain ⟨group, hgroup, hname⟩ := Prefix.exists_group_of_mem_infer ha
  have hmembers : a.members = group.members.map (qualify a.space) := congrArg Alias.members hname
  have hstart : a.name = group.start := congrArg Alias.name hname
  obtain ⟨hmany, hnodup, hnames⟩ := Prefix.group_of_mem_partition hgroup
  obtain ⟨run, hrun, hbegin⟩ := Prefix.commonRun_of_group hgroup
  have hgroupPerm : request.declared.Perm (group.members.map (qualify a.space)) :=
    hmembers ▸ hdeclared
  obtain ⟨ordered, hordered, hperm⟩ := exists_perm_of_map_qualify hgroupPerm
  have hregistered : ∀ name ∈ ordered, inferred.catalog.Registered a.space name := by
    intro name hmem
    rw [Prefix.infer_catalog]
    exact Prefix.registered_of_mem_namesOf (hnames name (hperm.subset hmem)).1
  have hlength : 2 ≤ ordered.length := by
    rw [hperm.length_eq]
    exact hmany
  have hrunOrdered : Prefix.commonRun ordered = some run := by
    rw [Prefix.commonRun_perm hperm]
    exact hrun
  have hfold := fold_qualify hwell.properNames hregistered (hperm.nodup_iff.mpr hnodup) hlength
    hrunOrdered hordered
  rw [← hordered] at hfold
  refine ⟨group.members, run, hmembers, hrun, ?_, hfold, ?_, ?_⟩
  · rw [hstart]
    exact hbegin
  · rw [hstart]
    exact Prefix.commonRun_eq_start_iff hgroup hrun hbegin
  · intro hsame
    subst hsame
    rw [hfold, Ledger.enter_known hwell.distinct ha hdeclared.subset]
    rfl

theorem fold_members_of_inferred_mode :
    let catalog := Catalog.ofElements [("gui.MODE_ON", ""), ("gui.MODE_OFF", "")]
    let inferred := (Prefix.infer { catalog }).registry
    let a : Alias := ⟨"gui", "MODE", ["gui.MODE_ON", "gui.MODE_OFF"]⟩
    let request : Request := { types := ["gui.MODE_OFF", "gui.MODE_ON"] }
    a ∈ inferred.ledger.aliases ∧ request.declared.Perm a.members ∧
      fold inferred request =
        (inferred, ⟨["gui.MODE", "integer"], ["gui.MODE"], some .integer⟩) := by
  intro catalog inferred a request
  have ha : a ∈ inferred.ledger.aliases := by decide +kernel
  have hdeclared : request.declared.Perm a.members := by decide +kernel
  obtain ⟨names, run, hmembers, hrun, -, -, -, hsame⟩ :=
    fold_members_of_inferred [("gui.MODE_ON", ""), ("gui.MODE_OFF", "")] ha hdeclared
  have hnames : names = ["MODE_ON", "MODE_OFF"] := by
    have hinjective : Function.Injective (qualify "gui") := fun _ _ => qualify_right_injective
    apply hinjective.list_map
    rw [← hmembers]
    decide +kernel
  have hname : run = "MODE" := by
    have hmode : Prefix.commonRun ["MODE_ON", "MODE_OFF"] = some "MODE" := by decide +kernel
    rw [hnames, hmode, Option.some.injEq] at hrun
    exact hrun.symm
  exact ⟨ha, hdeclared, hsame hname⟩

/--
The longest run may be a whole name, may skip an underscore that the prefix stops at, and
is looked for in another space if the space itself starts with the mark of a literal.
-/
theorem fold_members_under_other_name :
    (let catalog := Catalog.ofElements [("gui.KEY_UP", ""), ("gui.KEY_UP_LEFT", "")]
      let inferred := (Prefix.infer { catalog }).registry
      let folded := fold inferred { types := ["gui.KEY_UP", "gui.KEY_UP_LEFT"] }
      inferred.ledger.aliases = [⟨"gui", "KEY", ["gui.KEY_UP", "gui.KEY_UP_LEFT"]⟩] ∧
        folded.2.types = ["gui.KEY_UP", "integer"] ∧
        folded.1.ledger.aliases = inferred.ledger.aliases ++
          [⟨"gui", "KEY_UP", ["gui.KEY_UP", "gui.KEY_UP_LEFT"]⟩]) ∧
    (let catalog := Catalog.ofElements [("gui.KEY__UP_A", ""), ("gui.KEY__UP_B", "")]
      let inferred := (Prefix.infer { catalog }).registry
      let folded := fold inferred { types := ["gui.KEY__UP_A", "gui.KEY__UP_B"] }
      inferred.ledger.aliases = [⟨"gui", "KEY", ["gui.KEY__UP_A", "gui.KEY__UP_B"]⟩] ∧
        folded.2.types = ["gui.KEY_UP", "integer"] ∧
        folded.1.ledger.aliases = inferred.ledger.aliases ++
          [⟨"gui", "KEY_UP", ["gui.KEY__UP_A", "gui.KEY__UP_B"]⟩]) ∧
    (let catalog := Catalog.ofElements [("type:gui.KEY_A", ""), ("type:gui.KEY_B", "")]
      let inferred := (Prefix.infer { catalog }).registry
      let folded := fold inferred { types := ["type:gui.KEY_A", "type:gui.KEY_B"] }
      inferred.ledger.aliases =
          [⟨"type:gui", "KEY", ["type:gui.KEY_A", "type:gui.KEY_B"]⟩] ∧
        folded.2.types = ["gui.KEY_A", "gui.KEY_B"] ∧ folded.2.fallback = none) := by
  decide +kernel

end Reference
end ApiStubs
