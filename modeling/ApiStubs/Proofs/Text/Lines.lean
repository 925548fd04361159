import ApiStubs.Proofs.Text.Blank
import ApiStubs.Proofs.Text.Replace
import ApiStubs.Proofs.Text.Split

/-!
# Lines of a text

What is put together with a line end between has the lines of both parts, and trimming
the end only shortens the last line that is left.  A text that goes on with a mark
behind each of its line ends keeps doing so when parts of its lines are replaced.
-/

namespace ApiStubs
namespace Text

/-- The text has no line end. -/
def OneLine (text : String) : Prop :=
  '\n' ∉ text.toList

instance (text : String) : Decidable (OneLine text) :=
  inferInstanceAs (Decidable (_ ∉ _))

/-- Every line of the text is of the kind. -/
def EachLine (kind : String → Prop) (text : String) : Prop :=
  ∀ line ∈ lines text, kind line

section OneLine

variable {first second text part new : String}

@[simp]
theorem oneLine_append : OneLine (first ++ second) ↔ OneLine first ∧ OneLine second := by
  simp [OneLine, not_or]

theorem OneLine.of_subset (honeLine : OneLine text)
    (hsubset : ∀ c ∈ part.toList, c ∈ text.toList) : OneLine part :=
  fun hmem => honeLine (hsubset _ hmem)

theorem OneLine.joinWith {separator : String} {texts : List String}
    (hseparator : OneLine separator) (htexts : ∀ text ∈ texts, OneLine text) :
    OneLine (joinWith separator texts) := by
  induction texts with
  | nil => simp [OneLine, Text.joinWith]
  | cons text rest ih =>
      have htext := htexts text List.mem_cons_self
      by_cases hrest : rest = []
      · subst hrest
        rwa [joinWith_singleton]
      · rw [joinWith_cons hrest, oneLine_append, oneLine_append]
        exact ⟨⟨htext, hseparator⟩,
          ih (fun other hother => htexts other (List.mem_cons_of_mem text hother))⟩

theorem mem_replaceChars {part new cs : List Char} {skip : Nat} {c : Char}
    (hmem : c ∈ (replaceChars part new skip cs).1) : c ∈ new ∨ c ∈ cs := by
  fun_induction replaceChars part new skip cs with
  | case1 => contradiction
  | case2 skip d cs ih => exact (ih hmem).imp_right (List.mem_cons_of_mem d)
  | case3 d cs hmatch rest count hrest ih =>
      rw [hrest] at ih
      rcases List.mem_append.mp hmem with hnew | hlater
      · exact .inl hnew
      · exact (ih hlater).imp_right (List.mem_cons_of_mem d)
  | case4 d cs hmatch rest count hrest ih =>
      rw [hrest] at ih
      rcases List.mem_cons.mp hmem with rfl | hlater
      · exact .inr List.mem_cons_self
      · exact (ih hlater).imp_right (List.mem_cons_of_mem d)

theorem OneLine.replace (htext : OneLine text) (hnew : OneLine new) :
    OneLine (replace part new text) := by
  intro hmem
  rw [toList_replace] at hmem
  rcases mem_replaceChars hmem with hin | hin
  · exact hnew hin
  · exact htext hin

theorem OneLine.dropStart? {start rest : String} (htext : OneLine text)
    (hdrop : dropStart? start text = some rest) : OneLine rest := by
  unfold Text.dropStart? at hdrop
  split at hdrop
  next =>
    rw [← Option.some.inj hdrop]
    apply htext.of_subset
    intro c hc
    rw [String.toList_ofList] at hc
    exact List.mem_of_mem_drop hc
  next => contradiction

theorem OneLine.trimEnd (htext : OneLine text) : OneLine (trimEnd text) := by
  apply htext.of_subset
  intro c hc
  rw [Text.trimEnd, String.toList_ofList, dropBlankEnd, List.mem_reverse] at hc
  exact List.mem_reverse.mp ((List.dropWhile_sublist _).mem hc)

end OneLine

/-! ## The lines of texts put together -/

theorem lines_ne_nil (text : String) : lines text ≠ [] := by
  simpa [lines, split] using splitChars_ne_nil '\n' text.toList

theorem lines_append (first rest : String) :
    lines (first ++ "\n" ++ rest) = lines first ++ lines rest := by
  have hchars : (first ++ "\n" ++ rest).toList = first.toList ++ '\n' :: rest.toList := by
    simp
  rw [lines, split, hchars, splitChars_append_cons, List.map_append]
  rfl

theorem lines_of_oneLine {text : String} (htext : OneLine text) : lines text = [text] :=
  split_of_not_mem htext

theorem joinWith_lines (text : String) : joinWith "\n" (lines text) = text :=
  joinWith_split '\n' text

section EachLine

variable {kind : String → Prop} {first rest text : String}

theorem EachLine.of_oneLine (htext : OneLine text) (hkind : kind text) : EachLine kind text := by
  intro line hline
  rw [lines_of_oneLine htext, List.mem_singleton] at hline
  rwa [hline]

theorem EachLine.mono {other : String → Prop} (hlines : EachLine kind text)
    (hkind : ∀ line, kind line → other line) : EachLine other text :=
  fun line hline => hkind line (hlines line hline)

theorem EachLine.append (hfirst : EachLine kind first) (hrest : EachLine kind rest) :
    EachLine kind (first ++ "\n" ++ rest) := by
  intro line hline
  rw [lines_append] at hline
  rcases List.mem_append.mp hline with hmem | hmem
  · exact hfirst line hmem
  · exact hrest line hmem

/-- An empty line between two texts. -/
theorem EachLine.append_empty (hempty : kind "") (hfirst : EachLine kind first)
    (hrest : EachLine kind rest) : EachLine kind (first ++ "\n\n" ++ rest) := by
  have hlines : first ++ "\n\n" ++ rest = first ++ "\n" ++ "" ++ "\n" ++ rest := by
    apply String.toList_inj.mp
    simp
  rw [hlines]
  exact (hfirst.append (EachLine.of_oneLine (by decide) hempty)).append hrest

theorem EachLine.joinWith {texts : List String} (hne : texts ≠ [])
    (htexts : ∀ text ∈ texts, EachLine kind text) : EachLine kind (joinWith "\n" texts) := by
  induction texts with
  | nil => contradiction
  | cons text others ih =>
      have htext := htexts text List.mem_cons_self
      by_cases hothers : others = []
      · subst hothers
        rwa [joinWith_singleton]
      · rw [joinWith_cons hothers]
        exact htext.append
          (ih hothers (fun other hother => htexts other (List.mem_cons_of_mem text hother)))

/-- Texts that each have their line end, with a last line behind them. -/
theorem EachLine.join {texts : List String} (htexts : ∀ text ∈ texts, EachLine kind text)
    (hrest : EachLine kind rest) :
    EachLine kind (String.join (texts.map (· ++ "\n")) ++ rest) := by
  induction texts with
  | nil => simpa using hrest
  | cons text others ih =>
      have hlater := ih (fun other hother => htexts other (List.mem_cons_of_mem text hother))
      rw [List.map_cons, String.join_cons, String.append_assoc]
      exact (htexts text List.mem_cons_self).append hlater

end EachLine

/-! ## Trimming the end -/

theorem trimEnd_append_eq (first rest : String) :
    trimEnd (first ++ rest) =
      if trimEnd rest = "" then trimEnd first else first ++ trimEnd rest := by
  apply String.toList_inj.mp
  simp only [trimEnd, dropBlankEnd, String.toList_append, List.reverse_append,
    List.dropWhile_append]
  by_cases hblank : rest.toList.reverse.dropWhile isBlank = []
  · simp [hblank]
  · have hne : (rest.toList.reverse.dropWhile isBlank).isEmpty = false := by
      simpa [List.isEmpty_eq_false_iff] using hblank
    simp [hne, hblank]

/-- Trimming shortens one line and drops those behind it. -/
theorem EachLine.trimEnd {kind : String → Prop} {text : String} (hlines : EachLine kind text)
    (htrim : ∀ line, kind line → kind (trimEnd line)) : EachLine kind (trimEnd text) := by
  have hjoined : ∀ texts : List String, texts ≠ [] →
      (∀ line ∈ texts, OneLine line ∧ kind line) →
        EachLine kind (Text.trimEnd (Text.joinWith "\n" texts)) := by
    intro texts hne htexts
    -- Over lines and not over characters: a blank end may go through several of them.
    induction texts with
    | nil => contradiction
    | cons line rest ih =>
        obtain ⟨honeLine, hkind⟩ := htexts line List.mem_cons_self
        have hshort : EachLine kind (Text.trimEnd line) :=
          EachLine.of_oneLine honeLine.trimEnd (htrim line hkind)
        by_cases hrest : rest = []
        · subst hrest
          rwa [joinWith_singleton]
        · have hlater := ih hrest
            (fun other hother => htexts other (List.mem_cons_of_mem line hother))
          have hend : Text.trimEnd (line ++ "\n") = Text.trimEnd line := by
            rw [trimEnd_append_eq, if_pos (by decide)]
          rw [joinWith_cons hrest, trimEnd_append_eq, hend]
          split
          next => exact hshort
          next => exact (EachLine.of_oneLine honeLine hkind).append hlater
  have htrimmed := hjoined (lines text) (lines_ne_nil text)
    (fun line hline => ⟨mem_piece hline, hlines line hline⟩)
  rwa [joinWith_lines] at htrimmed

/-! ## Lines behind a mark -/

/-- The mark follows every line end. -/
def GoesOnWith (mark : List Char) : List Char → Prop
  | [] => True
  | c :: cs => (c = '\n' → mark <+: cs) ∧ GoesOnWith mark cs

section GoesOnWith

variable {mark part new cs first second : List Char}

theorem goesOnWith_of_not_mem (hcs : '\n' ∉ cs) : GoesOnWith mark cs := by
  induction cs with
  | nil => trivial
  | cons c cs ih =>
      rw [List.mem_cons, not_or] at hcs
      exact ⟨fun hc => absurd hc.symm hcs.1, ih hcs.2⟩

theorem GoesOnWith.append (hfirst : GoesOnWith mark first) (hsecond : GoesOnWith mark second) :
    GoesOnWith mark (first ++ second) := by
  induction first with
  | nil => exact hsecond
  | cons c first ih =>
      exact ⟨fun hc => (hfirst.1 hc).trans (List.prefix_append first second), ih hfirst.2⟩

/-- Replacing a part that starts otherwise leaves the mark at the start. -/
theorem isPrefix_replaceChars (hmark : ∀ c ∈ mark, ∀ d ∈ part.head?, d ≠ c) (hne : part ≠ [])
    (hstart : mark <+: cs) : mark <+: (replaceChars part new 0 cs).1 := by
  obtain ⟨rest, rfl⟩ := hstart
  obtain ⟨d, part, rfl⟩ := List.exists_cons_of_ne_nil hne
  have hother : d ∉ mark := fun hd => hmark d hd d rfl rfl
  rw [replaceChars_append (noStart_of_not_mem rfl hother)]
  exact List.prefix_append _ _

/-- Replacing within lines leaves the mark behind each line end. -/
theorem GoesOnWith.replaceChars (hmark : ∀ c ∈ mark, ∀ d ∈ part.head?, d ≠ c)
    (hne : part ≠ []) (hpart : '\n' ∉ part) (hnew : '\n' ∉ new) {skip : Nat}
    (hskip : '\n' ∉ cs.take skip) (hgoes : GoesOnWith mark cs) :
    GoesOnWith mark (replaceChars part new skip cs).1 := by
  induction cs generalizing skip with
  | nil =>
      cases skip <;> trivial
  | cons c cs ih =>
      cases skip with
      | succ skip =>
          rw [List.take_succ_cons, List.mem_cons, not_or] at hskip
          exact ih hskip.2 hgoes.2
      | zero =>
          rw [Text.replaceChars]
          split
          next hmatch =>
            rw [List.isPrefixOf_iff_prefix] at hmatch
            have hlater : '\n' ∉ cs.take (part.length - 1) := by
              -- What is skipped is the rest of the part.
              obtain ⟨rest, hrest⟩ := hmatch
              cases part with
              | nil => contradiction
              | cons d part =>
                  rw [List.cons_append, List.cons.injEq] at hrest
                  rw [← hrest.2, List.length_cons, Nat.add_sub_cancel, List.take_left]
                  exact fun hmem => hpart (List.mem_cons_of_mem d hmem)
            exact (goesOnWith_of_not_mem hnew).append (ih hlater hgoes.2)
          next =>
            refine ⟨fun hc => ?_, ih (by simp) hgoes.2⟩
            exact isPrefix_replaceChars hmark hne (hgoes.1 hc)

/-- Putting the mark behind every line end makes the text go on with it. -/
theorem goesOnWith_replaceChars (hmark : '\n' ∉ mark) (cs : List Char) :
    GoesOnWith mark (replaceChars ['\n'] ('\n' :: mark) 0 cs).1 := by
  induction cs with
  | nil => trivial
  | cons c cs ih =>
      rw [Text.replaceChars]
      split
      next hmatch =>
        exact ⟨fun _ => List.prefix_append _ _, (goesOnWith_of_not_mem hmark).append ih⟩
      next hother =>
        refine ⟨fun hc => ?_, ih⟩
        subst hc
        exact absurd rfl hother

theorem splitChars_of_isPrefix (hmark : '\n' ∉ mark) (hstart : mark <+: cs) :
    ∃ first rest, splitChars '\n' cs = first :: rest ∧ mark <+: first := by
  induction mark generalizing cs with
  | nil =>
      cases hsplit : splitChars '\n' cs with
      | nil => exact absurd hsplit (splitChars_ne_nil _ _)
      | cons first rest => exact ⟨first, rest, rfl, List.nil_prefix⟩
  | cons c mark ih =>
      rw [List.mem_cons, not_or] at hmark
      obtain ⟨behind, rfl⟩ := hstart
      obtain ⟨first, rest, hsplit, hfirst⟩ := ih hmark.2 (List.prefix_append mark behind)
      refine ⟨c :: first, rest, ?_, List.cons_prefix_cons.mpr ⟨rfl, hfirst⟩⟩
      rw [List.cons_append, splitChars, if_neg (Ne.symm hmark.1), hsplit]

/-- Every line behind the first one begins with the mark. -/
theorem GoesOnWith.isPrefix_tail (hmark : '\n' ∉ mark) (hgoes : GoesOnWith mark cs) :
    ∀ piece ∈ (splitChars '\n' cs).tail, mark <+: piece := by
  induction cs with
  | nil => simp [splitChars]
  | cons c cs ih =>
      have hlater := ih hgoes.2
      intro piece hpiece
      rw [splitChars] at hpiece
      split at hpiece
      next hc =>
        obtain ⟨first, rest, hsplit, hfirst⟩ := splitChars_of_isPrefix hmark (hgoes.1 hc)
        rw [hsplit] at hpiece hlater
        rcases List.mem_cons.mp hpiece with rfl | hrest
        · exact hfirst
        · exact hlater piece hrest
      next =>
        cases hsplit : splitChars '\n' cs with
        | nil => simp [hsplit] at hpiece
        | cons first rest =>
            rw [hsplit] at hpiece hlater
            exact hlater piece hpiece

end GoesOnWith

/-- The text begins with the mark, and goes on with it behind every line end. -/
structure Marked (mark text : String) : Prop where
  starts : mark.toList <+: text.toList
  goesOn : GoesOnWith mark.toList text.toList

theorem Marked.eachLine {mark text : String} (hmark : OneLine mark) (hmarked : Marked mark text) :
    EachLine (fun line => startsWith line mark = true) text := by
  intro line hline
  obtain ⟨piece, hpiece, rfl⟩ := List.mem_map.mp hline
  rw [startsWith, List.isPrefixOf_iff_prefix, String.toList_ofList]
  obtain ⟨first, rest, hsplit, hfirst⟩ := splitChars_of_isPrefix hmark hmarked.starts
  have htail := hmarked.goesOn.isPrefix_tail hmark
  rw [hsplit] at hpiece htail
  rcases List.mem_cons.mp hpiece with rfl | hrest
  · exact hfirst
  · exact htail piece hrest

end Text
end ApiStubs
