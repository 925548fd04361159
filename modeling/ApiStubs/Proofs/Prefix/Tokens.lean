import ApiStubs.Prefix.Tokens
import ApiStubs.Proofs.Text.Search
import ApiStubs.Proofs.Text.Split

/-!
# Tokens and common runs

Joining tokens and splitting the result gives the tokens back, so a run of
tokens is the same thing as its text.  The common run of names is a beginning of
the tokens of each of them.
-/

namespace ApiStubs
namespace Prefix

/-- A piece between underscores that has characters. -/
structure IsToken (token : String) : Prop where
  ne_empty : token ≠ ""
  noUnderscore : '_' ∉ token.toList

theorem isToken_of_mem_tokens {name token : String} (hmem : token ∈ tokens name) :
    IsToken token := by
  simp only [tokens, Text.split, List.mem_filter, List.mem_map] at hmem
  obtain ⟨⟨piece, hpiece, rfl⟩, hne⟩ := hmem
  exact ⟨by simpa using hne, by simpa using (Text.splitChars_piece hpiece).1⟩

theorem mem_name_of_mem_token {name token : String} (hmem : token ∈ tokens name)
    {c : Char} (hc : c ∈ token.toList) : c ∈ name.toList := by
  simp only [tokens, Text.split, List.mem_filter, List.mem_map] at hmem
  obtain ⟨⟨piece, hpiece, rfl⟩, -⟩ := hmem
  exact (Text.splitChars_piece hpiece).2 c (by simpa using hc)

theorem tokens_joinTokens {parts : List String} (hparts : ∀ part ∈ parts, IsToken part) :
    tokens (joinTokens parts) = parts := by
  cases parts with
  | nil => rfl
  | cons first rest =>
      have hsplit : Text.split '_' (joinTokens (first :: rest)) = first :: rest := by
        apply Text.split_joinWith (List.cons_ne_nil _ _)
        intro part hpart
        exact (hparts part hpart).noUnderscore
      rw [tokens, hsplit, List.filter_eq_self]
      intro part hpart
      simpa using (hparts part hpart).ne_empty

/-- The first tokens of a name are read back from the text that joins them. -/
theorem tokens_joinTokens_take (name : String) (count : Nat) :
    tokens (joinTokens ((tokens name).take count)) = (tokens name).take count :=
  tokens_joinTokens (fun _ htoken => isToken_of_mem_tokens (List.mem_of_mem_take htoken))

/-- Every character of a joined text is an underscore or one of a token. -/
theorem mem_joinTokens {parts : List String} {c : Char}
    (hc : c ∈ (joinTokens parts).toList) :
    c = '_' ∨ ∃ part ∈ parts, c ∈ part.toList :=
  (Text.mem_joinWith hc).imp_left List.mem_singleton.mp

/-- A beginning of the tokens of a name, as the text of an alias. -/
structure Begins (start name : String) : Prop where
  ne_nil : tokens start ≠ []
  joined : joinTokens (tokens start) = start
  isPrefix : tokens start <+: tokens name

theorem Begins.of_isPrefix {parts : List String} {name : String} (hne : parts ≠ [])
    (hbegin : parts <+: tokens name) : Begins (joinTokens parts) name := by
  have hparts : tokens (joinTokens parts) = parts := by
    apply tokens_joinTokens
    intro part hpart
    exact isToken_of_mem_tokens (hbegin.mem hpart)
  exact ⟨by rw [hparts]; exact hne, by rw [hparts], by rw [hparts]; exact hbegin⟩

theorem Begins.ne_empty {start name : String} (hbegins : Begins start name) :
    start ≠ "" := by
  rintro rfl
  exact hbegins.ne_nil rfl

theorem Begins.noDot {start name : String} (hbegins : Begins start name)
    (hname : '.' ∉ name.toList) : '.' ∉ start.toList := by
  intro hdot
  rw [← hbegins.joined] at hdot
  rcases mem_joinTokens hdot with hmark | ⟨token, htoken, hmem⟩
  · simp at hmark
  · exact hname (mem_name_of_mem_token (hbegins.isPrefix.mem htoken) hmem)

/-! ## The common run -/

theorem commonStart_isPrefix_left (as bs : List String) : commonStart as bs <+: as := by
  fun_induction commonStart as bs with
  | case1 as b bs ih => simpa using ih
  | case2 => simp
  | case3 => simp

theorem commonStart_isPrefix_right (as bs : List String) : commonStart as bs <+: bs := by
  fun_induction commonStart as bs with
  | case1 as b bs ih => simpa using ih
  | case2 => simp
  | case3 => simp

theorem foldl_commonStart_isPrefix (names : List String) (run : List String) :
    names.foldl (fun run other => commonStart run (tokens other)) run <+: run ∧
      ∀ name ∈ names,
        names.foldl (fun run other => commonStart run (tokens other)) run <+:
          tokens name := by
  induction names generalizing run with
  | nil => simp
  | cons first names ih =>
      obtain ⟨hrun, hnames⟩ := ih (commonStart run (tokens first))
      refine ⟨hrun.trans (commonStart_isPrefix_left _ _), ?_⟩
      intro name hname
      rcases List.mem_cons.mp hname with rfl | hmem
      · exact hrun.trans (commonStart_isPrefix_right _ _)
      · exact hnames name hmem

theorem commonTokens_isPrefix {names : List String} {name : String}
    (hname : name ∈ names) : commonTokens names <+: tokens name := by
  cases names with
  | nil => simp at hname
  | cons first names =>
      obtain ⟨hfirst, hrest⟩ := foldl_commonStart_isPrefix names (tokens first)
      rcases List.mem_cons.mp hname with rfl | hmem
      · exact hfirst
      · exact hrest name hmem

theorem begins_of_commonRun {names : List String} {run name : String}
    (hrun : commonRun names = some run) (hname : name ∈ names) : Begins run name := by
  unfold commonRun at hrun
  split at hrun
  next => contradiction
  next hne =>
    simp only [Option.some.injEq] at hrun
    subst hrun
    exact Begins.of_isPrefix hne (commonTokens_isPrefix hname)

end Prefix
end ApiStubs
