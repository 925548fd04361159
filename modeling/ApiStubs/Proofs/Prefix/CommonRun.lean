import ApiStubs.Proofs.Prefix.Tokens

/-!
# The common run is the longest one

A list of tokens begins all names exactly if it begins their common tokens.  So the
common tokens are the longest list of that kind, and neither the order of the names
nor their repetition matters to them.  The text of the run stands for its tokens, since
these are read back from it, so runs can be taken of runs.
-/

namespace ApiStubs
namespace Prefix

theorem isPrefix_commonStart_iff {run as bs : List String} :
    run <+: commonStart as bs ↔ run <+: as ∧ run <+: bs := by
  fun_induction commonStart as bs generalizing run with
  | case1 as b bs ih =>
      cases run with
      | nil => simp
      | cons token run =>
          simp only [List.cons_prefix_cons, ih]
          constructor
          · rintro ⟨rfl, has, hbs⟩
            exact ⟨⟨rfl, has⟩, rfl, hbs⟩
          · rintro ⟨⟨rfl, has⟩, -, hbs⟩
            exact ⟨rfl, has, hbs⟩
  | case2 a as b bs hne =>
      cases run with
      | nil => simp
      | cons token run =>
          simp only [List.cons_prefix_cons, List.prefix_nil, reduceCtorEq, false_iff, not_and]
          rintro ⟨rfl, -⟩ heq
          exact absurd heq hne
  | case3 as bs hempty =>
      cases as with
      | nil => simp +contextual
      | cons a as =>
          cases bs with
          | nil => simp +contextual
          | cons b bs => exact absurd rfl (hempty a as b bs rfl)

theorem isPrefix_foldl_commonStart_iff {run start : List String} {names : List String} :
    run <+: names.foldl (fun run other => commonStart run (tokens other)) start ↔
      run <+: start ∧ ∀ name ∈ names, run <+: tokens name := by
  induction names generalizing start with
  | nil => simp
  | cons first names ih => simp [ih, isPrefix_commonStart_iff, and_assoc]

theorem isPrefix_commonTokens_iff {names : List String} (hne : names ≠ [])
    {run : List String} :
    run <+: commonTokens names ↔ ∀ name ∈ names, run <+: tokens name := by
  cases names with
  | nil => contradiction
  | cons first names => simp [commonTokens, isPrefix_foldl_commonStart_iff]

/-! ## The longest beginning -/

/-- Tokens that begin every name; no longer list of tokens does. -/
structure IsLongestBeginning (names run : List String) : Prop where
  begins : ∀ name ∈ names, run <+: tokens name
  longest : ∀ other : List String,
    (∀ name ∈ names, other <+: tokens name) → other.length ≤ run.length

theorem isLongestBeginning_commonTokens {names : List String} (hne : names ≠ []) :
    IsLongestBeginning names (commonTokens names) where
  begins _ hname := commonTokens_isPrefix hname
  longest _ hother := ((isPrefix_commonTokens_iff hne).mpr hother).length_le

/-- Every list begins the tokens of no names, so none of these is the longest. -/
theorem IsLongestBeginning.ne_nil {names run : List String}
    (hrun : IsLongestBeginning names run) : names ≠ [] := by
  rintro rfl
  have hlonger : run.length + 1 ≤ run.length := hrun.longest ("" :: run) (by simp)
  omega

theorem IsLongestBeginning.eq_commonTokens {names run : List String}
    (hrun : IsLongestBeginning names run) : run = commonTokens names := by
  have hbegins := (isPrefix_commonTokens_iff hrun.ne_nil).mpr hrun.begins
  have hlongest := (isLongestBeginning_commonTokens hrun.ne_nil).begins
  exact hbegins.eq_of_length_le (hrun.longest _ hlongest)

/-- The common tokens are those of the set of names. -/
theorem commonTokens_eq_of_mem_iff {first second : List String}
    (hmem : ∀ name, name ∈ first ↔ name ∈ second) :
    commonTokens first = commonTokens second := by
  by_cases hne : first = []
  · subst hne
    have hnone : second = [] := List.eq_nil_iff_forall_not_mem.mpr (by simpa using hmem)
    rw [hnone]
  · have hlongest := isLongestBeginning_commonTokens hne
    apply IsLongestBeginning.eq_commonTokens
    constructor
    · intro name hname
      exact hlongest.begins name ((hmem name).mpr hname)
    · intro other hother
      exact hlongest.longest other (fun name hname => hother name ((hmem name).mp hname))

theorem commonTokens_append {first second : List String} (hfirst : first ≠ [])
    (hsecond : second ≠ []) :
    commonTokens (first ++ second) =
      commonStart (commonTokens first) (commonTokens second) := by
  apply Eq.symm
  apply IsLongestBeginning.eq_commonTokens
  constructor
  · intro name hname
    rcases List.mem_append.mp hname with hmem | hmem
    · exact (commonStart_isPrefix_left _ _).trans (commonTokens_isPrefix hmem)
    · exact (commonStart_isPrefix_right _ _).trans (commonTokens_isPrefix hmem)
  · intro other hother
    apply List.IsPrefix.length_le
    rw [isPrefix_commonStart_iff, isPrefix_commonTokens_iff hfirst,
      isPrefix_commonTokens_iff hsecond]
    exact ⟨fun name hname => hother name (List.mem_append_left _ hname),
      fun name hname => hother name (List.mem_append_right _ hname)⟩

/-! ## The run -/

theorem commonRun_eq_of_mem_iff {first second : List String}
    (hmem : ∀ name, name ∈ first ↔ name ∈ second) : commonRun first = commonRun second := by
  rw [commonRun, commonRun, commonTokens_eq_of_mem_iff hmem]

theorem commonRun_perm {first second : List String} (hperm : first.Perm second) :
    commonRun first = commonRun second :=
  commonRun_eq_of_mem_iff (fun _ => hperm.mem_iff)

theorem commonRun_of_ne_nil {names : List String} (hne : commonTokens names ≠ []) :
    commonRun names = some (joinTokens (commonTokens names)) := by
  unfold commonRun
  split
  next hnil => exact absurd hnil hne
  next => rfl

/-- The tokens of the common run are the common tokens. -/
theorem tokens_joinTokens_commonTokens (names : List String) :
    tokens (joinTokens (commonTokens names)) = commonTokens names := by
  apply tokens_joinTokens
  intro token htoken
  cases names with
  | nil => simp [commonTokens] at htoken
  | cons first names =>
      have hbegin : commonTokens (first :: names) <+: tokens first :=
        commonTokens_isPrefix List.mem_cons_self
      exact isToken_of_mem_tokens (hbegin.mem htoken)

theorem tokens_of_commonRun {names : List String} {run : String}
    (hrun : commonRun names = some run) : names ≠ [] ∧ tokens run = commonTokens names := by
  have hne : commonTokens names ≠ [] := by
    intro hnone
    simp [commonRun, hnone] at hrun
  rw [commonRun_of_ne_nil hne, Option.some.injEq] at hrun
  constructor
  · rintro rfl
    exact hne rfl
  · rw [← hrun, tokens_joinTokens_commonTokens]

/-- The run of all names is that of the runs of two parts. -/
theorem commonRun_append {first second : List String} {run other : String}
    (hrun : commonRun first = some run) (hother : commonRun second = some other) :
    commonRun (first ++ second) = commonRun [run, other] := by
  obtain ⟨hfirst, htokens⟩ := tokens_of_commonRun hrun
  obtain ⟨hsecond, htokens'⟩ := tokens_of_commonRun hother
  have hpair : commonTokens [run, other] = commonStart (tokens run) (tokens other) := rfl
  rw [commonRun, commonRun, commonTokens_append hfirst hsecond, hpair, htokens, htokens']

/-- The common run joins the longest list of tokens that begins every name, if this has
tokens.  It is that of the set of names, and of the runs of any two parts. -/
theorem commonRun_greatest (names : List String) :
    commonRun [] = none ∧
      (names ≠ [] → ∃! run, IsLongestBeginning names run) ∧
      (∀ run, IsLongestBeginning names run →
        commonRun names = if run = [] then none else some (joinTokens run)) ∧
      (∀ others, (∀ name, name ∈ names ↔ name ∈ others) →
        commonRun names = commonRun others) ∧
      ∀ others run other, commonRun names = some run → commonRun others = some other →
        commonRun (names ++ others) = commonRun [run, other] := by
  refine ⟨rfl, ?_, ?_, fun _ => commonRun_eq_of_mem_iff, fun _ _ _ => commonRun_append⟩
  · intro hne
    exact ⟨commonTokens names, isLongestBeginning_commonTokens hne,
      fun _ hrun => hrun.eq_commonTokens⟩
  · intro run hrun
    have htokens := hrun.eq_commonTokens
    by_cases hnone : run = []
    · rw [if_pos hnone, commonRun, ← htokens, hnone]
    · rw [if_neg hnone, htokens]
      exact commonRun_of_ne_nil (htokens ▸ hnone)

/-- Doubled and leading underscores make no tokens, in the names or in the runs. -/
theorem commonRun_greatest_of_buffer_names :
    let types := ["BUFFER_TYPE_COLOR0_BIT", "BUFFER__TYPE_DEPTH_BIT"]
    let sizes := ["_BUFFER_SIZE_X", "BUFFER_SIZE_Y", "BUFFER_SIZE"]
    IsLongestBeginning types ["BUFFER", "TYPE"] ∧
      commonRun types = some "BUFFER_TYPE" ∧ commonRun sizes = some "BUFFER_SIZE" ∧
      commonRun types.reverse = some "BUFFER_TYPE" ∧
      commonRun (types ++ sizes) = commonRun ["BUFFER_TYPE", "BUFFER_SIZE"] := by
  intro types sizes
  obtain ⟨-, hexists, hrun, hset, hparts⟩ := commonRun_greatest types
  have htokens : commonTokens types = ["BUFFER", "TYPE"] := by decide +kernel
  have hlongest : IsLongestBeginning types ["BUFFER", "TYPE"] := by
    obtain ⟨run, hlongest, -⟩ := hexists (by decide)
    rwa [hlongest.eq_commonTokens, htokens] at hlongest
  have htypes : commonRun types = some "BUFFER_TYPE" := hrun _ hlongest
  have hsizes : commonRun sizes = some "BUFFER_SIZE" := by decide +kernel
  refine ⟨hlongest, htypes, hsizes, ?_, hparts sizes _ _ htypes hsizes⟩
  rw [← hset types.reverse (fun name => List.mem_reverse.symm), htypes]

end Prefix
end ApiStubs
