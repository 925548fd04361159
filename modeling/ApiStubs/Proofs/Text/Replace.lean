import ApiStubs.Proofs.Text.Search

/-!
# Replacing a part of a text

Occurrences are replaced from left to right, so a beginning in which none starts stays as
it is, and the text behind it is replaced as if it stood alone; so is the text behind an
occurrence.  Where nothing is counted there was no occurrence.
-/

namespace ApiStubs
namespace Text

/-- No occurrence of the part starts in the first characters when the others follow. -/
def NoStart (part first rest : List Char) : Prop :=
  ∀ inner, inner <:+ first → inner ≠ [] → ¬ part <+: inner ++ rest

section

variable {part new first second rest : List Char}

theorem NoStart.of_cons {c : Char} (hnone : NoStart part (c :: first) rest) :
    NoStart part first rest :=
  fun inner hinner => hnone inner (hinner.trans (List.suffix_cons c first))

theorem NoStart.cons {c : Char} (hother : ¬ part <+: c :: (first ++ rest))
    (hnone : NoStart part first rest) : NoStart part (c :: first) rest := by
  intro inner hinner hne
  rcases List.suffix_cons_iff.mp hinner with rfl | hlater
  · exact hother
  · exact hnone inner hlater hne

/-- An occurrence starts with the first character of the part. -/
theorem noStart_of_not_mem {c : Char} (hhead : part.head? = some c) (hfirst : c ∉ first) :
    NoStart part first rest := by
  intro inner hinner hne hbegins
  cases inner with
  | nil => contradiction
  | cons d inner =>
      obtain ⟨part, rfl⟩ := List.head?_eq_some_iff.mp hhead
      rw [List.cons_append, List.cons_prefix_cons] at hbegins
      apply hfirst
      rw [hbegins.1]
      exact hinner.subset List.mem_cons_self

theorem replaceChars_cons {c : Char} (hother : ¬ part <+: c :: rest) :
    replaceChars part new 0 (c :: rest) =
      (c :: (replaceChars part new 0 rest).1, (replaceChars part new 0 rest).2) := by
  rw [← List.isPrefixOf_iff_prefix] at hother
  rw [replaceChars, if_neg hother]

/-- A beginning without the start of an occurrence stays, and nothing is counted in it. -/
theorem replaceChars_append (hnone : NoStart part first rest) :
    replaceChars part new 0 (first ++ rest) =
      (first ++ (replaceChars part new 0 rest).1, (replaceChars part new 0 rest).2) := by
  induction first with
  | nil => rfl
  | cons c first ih =>
      have hother : ¬ part <+: c :: (first ++ rest) :=
        hnone (c :: first) List.suffix_rfl (List.cons_ne_nil c first)
      rw [List.cons_append, replaceChars_cons hother, ih hnone.of_cons, List.cons_append]

theorem replaceChars_skip (skipped rest : List Char) :
    replaceChars part new skipped.length (skipped ++ rest) = replaceChars part new 0 rest := by
  induction skipped with
  | nil => rfl
  | cons c skipped ih => exact ih

theorem replaceChars_part (hne : part ≠ []) :
    replaceChars part new 0 (part ++ rest) =
      (new ++ (replaceChars part new 0 rest).1, (replaceChars part new 0 rest).2 + 1) := by
  cases part with
  | nil => contradiction
  | cons c part =>
      have hmatch : (c :: part).isPrefixOf (c :: (part ++ rest)) = true :=
        List.isPrefixOf_iff_prefix.mpr (List.prefix_append (c :: part) rest)
      rw [List.cons_append, replaceChars, hmatch]
      simp only [if_true, List.length_cons, Nat.add_sub_cancel]
      rw [replaceChars_skip]

/-- A part is found from the left, where no earlier one starts. -/
theorem exists_first_of_infix (hne : part ≠ []) {cs : List Char} (hholds : part <:+: cs) :
    ∃ first rest, cs = first ++ (part ++ rest) ∧ NoStart part first (part ++ rest) := by
  induction cs with
  | nil => exact absurd (List.infix_nil.mp hholds) hne
  | cons c cs ih =>
      by_cases hmatch : part <+: c :: cs
      · obtain ⟨rest, hrest⟩ := hmatch
        refine ⟨[], rest, hrest.symm, ?_⟩
        intro inner hinner hinnerNe
        exact absurd (List.suffix_nil.mp hinner) hinnerNe
      · have hlater := (List.infix_cons_iff.mp hholds).resolve_left hmatch
        obtain ⟨first, rest, rfl, hnone⟩ := ih hlater
        exact ⟨c :: first, rest, rfl, hnone.cons hmatch⟩

end

variable {part new first rest text : String}

theorem toList_replace (part new text : String) :
    (replace part new text).toList = (replaceChars part.toList new.toList 0 text.toList).1 := by
  simp [replace, replaceCounting]

theorem replaceCounting_append (hnone : NoStart part.toList first.toList rest.toList) :
    replaceCounting part new (first ++ rest) =
      (first ++ (replaceCounting part new rest).1, (replaceCounting part new rest).2) := by
  simp only [replaceCounting, String.toList_append, replaceChars_append hnone, String.ofList_append,
    String.ofList_toList]

theorem replaceCounting_part_append (hne : part ≠ "") :
    replaceCounting part new (part ++ rest) =
      (new ++ (replaceCounting part new rest).1, (replaceCounting part new rest).2 + 1) := by
  have hchars : part.toList ≠ [] := by simpa using hne
  simp only [replaceCounting, String.toList_append, replaceChars_part hchars, String.ofList_append,
    String.ofList_toList]

/-- A beginning without the start of an occurrence stays. -/
theorem replace_append (hnone : NoStart part.toList first.toList rest.toList) :
    replace part new (first ++ rest) = first ++ replace part new rest := by
  rw [replace, replaceCounting_append hnone, replace]

theorem replace_part_append (hne : part ≠ "") :
    replace part new (part ++ rest) = new ++ replace part new rest := by
  rw [replace, replaceCounting_part_append hne, replace]

theorem replaceCounting_of_not_holds (hnone : holds text part = false) :
    replaceCounting part new text = (text, 0) := by
  have hinside : ¬ part.toList <:+: text.toList := by
    rw [← holds_iff, hnone]
    exact Bool.false_ne_true
  have hstart : NoStart part.toList text.toList "".toList := by
    intro inner hinner _ hbegins
    rw [String.toList_empty, List.append_nil] at hbegins
    exact hinside (hbegins.isInfix.trans hinner.isInfix)
  have happend : replaceCounting part new (text ++ "") = _ := replaceCounting_append hstart
  have hempty : replaceCounting part new "" = ("", 0) := by
    simp [replaceCounting, replaceChars]
  simpa only [hempty, String.append_empty] using happend

/-- A text that does not hold the part stays. -/
theorem replace_of_not_holds (hnone : holds text part = false) : replace part new text = text := by
  rw [replace, replaceCounting_of_not_holds hnone]

/-- In a text that holds the part, the first occurrence is replaced before the others. -/
theorem exists_replaceCounting_of_holds (hne : part ≠ "") (hholds : holds text part = true)
    (new : String) :
    ∃ first rest, text = first ++ part ++ rest ∧
      replaceCounting part new text =
        (first ++ new ++ (replaceCounting part new rest).1,
          (replaceCounting part new rest).2 + 1) := by
  have hchars : part.toList ≠ [] := by simpa using hne
  obtain ⟨first, rest, htext, hnone⟩ := exists_first_of_infix hchars (holds_iff.mp hholds)
  have hsplit : text = String.ofList first ++ (part ++ String.ofList rest) := by
    apply String.toList_inj.mp
    simpa using htext
  have hstart : NoStart part.toList (String.ofList first).toList
      (part ++ String.ofList rest).toList := by
    simpa using hnone
  refine ⟨String.ofList first, String.ofList rest, ?_, ?_⟩
  · rw [hsplit, String.append_assoc]
  · rw [hsplit, replaceCounting_append hstart, replaceCounting_part_append hne, String.append_assoc]

theorem replaceCounting_eq_zero_iff (hne : part ≠ "") :
    (replaceCounting part new text).2 = 0 ↔ holds text part = false := by
  constructor
  · intro hcount
    rw [Bool.eq_false_iff]
    intro hholds
    obtain ⟨first, rest, -, hreplaced⟩ := exists_replaceCounting_of_holds hne hholds new
    rw [hreplaced] at hcount
    exact Nat.succ_ne_zero _ hcount
  · intro hnone
    rw [replaceCounting_of_not_holds hnone]

end Text
end ApiStubs
