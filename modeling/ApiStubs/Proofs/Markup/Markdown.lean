import ApiStubs.Markup.Markdown
import Mathlib.Data.List.Nodup

/-!
# Marks for inline elements in one pass

Reading a forest with the marks of the rules around the texts of their elements gives the
same before and after an element is dissolved, since its marks are texts then.  While
numbers tell the elements apart, dissolving one leaves all others, so when all rules are
through no element has a rule and the texts that are left are the marked ones.
-/

namespace ApiStubs
namespace Markup

/-- The rule for the elements of a name. -/
def ruleNamed (rules : List InlineRule) (name : String) : Option InlineRule :=
  rules.find? (fun rule => rule.name = name)

namespace Forest

variable {α β : Type}

/-- All texts of the forest in order, those of an element between the marks of its rule. -/
def markedTexts (ruleOf : α → Option InlineRule) : Forest α → List Char
  | nil => []
  | text content rest => content.toList ++ markedTexts ruleOf rest
  | comment _ rest => markedTexts ruleOf rest
  | element label inside rest =>
      match ruleOf label with
      | none => markedTexts ruleOf inside ++ markedTexts ruleOf rest
      | some rule =>
          rule.opening.toList ++ markedTexts ruleOf inside ++ rule.closing.toList ++
            markedTexts ruleOf rest

/-- The text of a forest, read in one pass. -/
def markedText (rules : List InlineRule) (forest : Forest String) : String :=
  String.ofList (markedTexts (ruleNamed rules) forest)

section

variable {ruleOf : α → Option InlineRule}

theorem markedTexts_append (a b : Forest α) :
    markedTexts ruleOf (a.append b) = markedTexts ruleOf a ++ markedTexts ruleOf b := by
  induction a with
  | nil => rfl
  | text content rest ih => simp [append, markedTexts, ih]
  | comment content rest ih => simp [append, markedTexts, ih]
  | element label inside rest _ ih =>
      cases hrule : ruleOf label <;> simp [append, markedTexts, hrule, ih]

theorem markedTexts_marked (rule : InlineRule) (inside : Forest α) :
    markedTexts ruleOf (rule.marked inside) =
      rule.opening.toList ++ markedTexts ruleOf inside ++ rule.closing.toList := by
  unfold InlineRule.marked
  by_cases hclosing : rule.closing = ""
  · simp [hclosing, markedTexts]
  · simp [hclosing, markedTexts, markedTexts_append]

theorem elements_marked (rule : InlineRule) (inside : Forest α) :
    (rule.marked inside).elements = inside.elements := by
  unfold InlineRule.marked
  by_cases hclosing : rule.closing = ""
  · simp [hclosing, elements]
  · simp [hclosing, elements]

/-- Only the rules of the elements that occur matter. -/
theorem markedTexts_congr {other : α → Option InlineRule} {forest : Forest α}
    (hsame : ∀ label ∈ forest.elements, ruleOf label = other label) :
    markedTexts ruleOf forest = markedTexts other forest := by
  induction forest with
  | nil => rfl
  | text content rest ih => rw [markedTexts, markedTexts, ih hsame]
  | comment content rest ih => rw [markedTexts, markedTexts, ih hsame]
  | element label inside rest ihInside ihRest =>
      simp only [elements, List.mem_cons, List.mem_append] at hsame
      rw [markedTexts, markedTexts, hsame label (.inl rfl),
        ihInside (fun inner hinner => hsame inner (.inr (.inl hinner))),
        ihRest (fun later hlater => hsame later (.inr (.inr hlater)))]

theorem markedTexts_without_rules {forest : Forest α}
    (hnone : ∀ label ∈ forest.elements, ruleOf label = none) :
    markedTexts ruleOf forest = forest.texts := by
  rw [markedTexts_congr hnone]
  induction forest with
  | nil => rfl
  | text content rest ih => rw [markedTexts, texts, ih hnone]
  | comment content rest ih => rw [markedTexts, texts, ih hnone]
  | element label inside rest ihInside ihRest =>
      simp only [elements, List.mem_cons, List.mem_append] at hnone
      rw [markedTexts, texts, ihInside (fun inner hinner => hnone inner (.inr (.inl hinner))),
        ihRest (fun later hlater => hnone later (.inr (.inr hlater)))]

end

/-! ## Dissolving elements -/

section

variable {ruleOf : Numbered → Option InlineRule} {rule : InlineRule} {number : Nat}
  {forest : Forest Numbered}

/-- The marks of an element that is dissolved stand where its rule has put them. -/
theorem markedTexts_dissolve
    (hrule : ∀ label ∈ forest.elements, label.number = number → ruleOf label = some rule) :
    markedTexts ruleOf (forest.dissolve rule number) = markedTexts ruleOf forest := by
  induction forest with
  | nil => rfl
  | text content rest ih => rw [dissolve, markedTexts, markedTexts, ih hrule]
  | comment content rest ih => rw [dissolve, markedTexts, markedTexts, ih hrule]
  | element label inside rest ihInside ihRest =>
      simp only [elements, List.mem_cons, List.mem_append] at hrule
      rw [dissolve]
      split
      next hnumber =>
        rw [markedTexts_append, markedTexts_marked, markedTexts, hrule label (.inl rfl) hnumber]
      next =>
        rw [markedTexts, markedTexts,
          ihInside (fun inner hinner => hrule inner (.inr (.inl hinner))),
          ihRest (fun later hlater => hrule later (.inr (.inr hlater)))]

/-- No two elements have the same number. -/
def Distinct (forest : Forest Numbered) : Prop :=
  (forest.elements.map (·.number)).Nodup

theorem elements_dissolve (hdistinct : forest.Distinct) :
    (forest.dissolve rule number).elements =
      forest.elements.filter (fun label => label.number ≠ number) := by
  induction forest with
  | nil => rfl
  | text content rest ih => exact ih hdistinct
  | comment content rest ih => exact ih hdistinct
  | element label inside rest ihInside ihRest =>
      simp only [Distinct, elements, List.map_cons, List.map_append, List.nodup_cons] at hdistinct
      obtain ⟨hlabel, hparts⟩ := hdistinct
      rw [dissolve]
      split
      next hnumber =>
        -- The others have other numbers.
        subst hnumber
        have hothers : (inside.elements ++ rest.elements).filter
            (fun other => other.number ≠ label.number) = inside.elements ++ rest.elements := by
          rw [List.filter_eq_self]
          intro other hother
          have hmem := List.mem_map_of_mem (f := Numbered.number) hother
          rw [List.map_append] at hmem
          simp only [ne_eq, decide_not, Bool.not_eq_true', decide_eq_false_iff_not]
          intro hsame
          rw [hsame] at hmem
          exact hlabel hmem
        rw [elements_append, elements_marked, elements, List.filter_cons_of_neg (by simp), hothers]
      next hnumber =>
        have hinside : inside.Distinct := hparts.of_append_left
        have hrest : rest.Distinct := hparts.of_append_right
        rw [elements, elements, List.filter_cons_of_pos (by simpa using hnumber),
          List.filter_append, ihInside hinside, ihRest hrest]

theorem Distinct.dissolve (hdistinct : forest.Distinct) :
    (forest.dissolve rule number).Distinct := by
  rw [Distinct, elements_dissolve hdistinct]
  exact hdistinct.sublist (List.filter_sublist.map _)

/-- Dissolves the elements with the numbers, one after the other. -/
def dissolveEach (rule : InlineRule) (numbers : List Nat) (forest : Forest Numbered) :
    Forest Numbered :=
  numbers.foldl (fun forest number => forest.dissolve rule number) forest

theorem elements_dissolveEach (numbers : List Nat) (hdistinct : forest.Distinct) :
    (forest.dissolveEach rule numbers).elements =
      forest.elements.filter (fun label => label.number ∉ numbers) := by
  induction numbers generalizing forest with
  | nil => simp [dissolveEach]
  | cons number numbers ih =>
      have hlater : (forest.dissolveEach rule (number :: numbers)).elements = _ :=
        ih hdistinct.dissolve
      rw [hlater, elements_dissolve hdistinct, List.filter_filter]
      apply List.filter_congr
      intro label _
      simp [Bool.and_comm]

theorem markedTexts_dissolveEach {numbers : List Nat} (hdistinct : forest.Distinct)
    (hrule : ∀ label ∈ forest.elements, label.number ∈ numbers → ruleOf label = some rule) :
    markedTexts ruleOf (forest.dissolveEach rule numbers) = markedTexts ruleOf forest := by
  induction numbers generalizing forest with
  | nil => rfl
  | cons number numbers ih =>
      have hfirst : ∀ label ∈ forest.elements, label.number = number → ruleOf label = some rule :=
        fun label hlabel hnumber => hrule label hlabel (by simp [hnumber])
      have hlater : ∀ label ∈ (forest.dissolve rule number).elements,
          label.number ∈ numbers → ruleOf label = some rule := by
        intro label hlabel hnumber
        rw [elements_dissolve hdistinct] at hlabel
        exact hrule label (List.mem_of_mem_filter hlabel) (List.mem_cons_of_mem number hnumber)
      rw [← markedTexts_dissolve hfirst]
      exact ih hdistinct.dissolve hlater

/-- Numbers are chosen by the name of their elements. -/
theorem mem_chosen_iff (hdistinct : forest.Distinct) {label : Numbered}
    (hlabel : label ∈ forest.elements) :
    label.number ∈ rule.chosen forest ↔ label.name = rule.name := by
  unfold InlineRule.chosen
  constructor
  · intro hchosen
    obtain ⟨other, hother, hnumber⟩ := List.mem_map.mp hchosen
    obtain ⟨hmem, hname⟩ := List.mem_filter.mp hother
    rw [← List.inj_on_of_nodup_map hdistinct hmem hlabel hnumber]
    exact of_decide_eq_true hname
  · intro hname
    exact List.mem_map_of_mem (List.mem_filter.mpr ⟨hlabel, decide_eq_true hname⟩)

theorem elements_dissolveAll (hdistinct : forest.Distinct) :
    (forest.dissolveAll rule).elements =
      forest.elements.filter (fun label => label.name ≠ rule.name) := by
  have heach : (forest.dissolveEach rule (rule.chosen forest)).elements = _ :=
    elements_dissolveEach (rule.chosen forest) hdistinct
  refine heach.trans (List.filter_congr ?_)
  intro label hlabel
  simp [mem_chosen_iff hdistinct hlabel]

theorem Distinct.dissolveAll (hdistinct : forest.Distinct) :
    (forest.dissolveAll rule).Distinct := by
  rw [Distinct, elements_dissolveAll hdistinct]
  exact hdistinct.sublist (List.filter_sublist.map _)

theorem markedTexts_dissolveAll (hdistinct : forest.Distinct)
    (hrule : ∀ label ∈ forest.elements, label.name = rule.name → ruleOf label = some rule) :
    markedTexts ruleOf (forest.dissolveAll rule) = markedTexts ruleOf forest :=
  markedTexts_dissolveEach hdistinct (fun label hlabel hchosen =>
    hrule label hlabel ((mem_chosen_iff hdistinct hlabel).mp hchosen))

end

/-! ## All rules -/

/-- When the rules are through, the texts are what one pass over the forest reads. -/
theorem texts_applyRules (rules : List InlineRule) {forest : Forest Numbered}
    (hdistinct : forest.Distinct) :
    (forest.applyRules rules).texts =
      markedTexts (fun label => ruleNamed rules label.name) forest := by
  induction rules generalizing forest with
  | nil => exact (markedTexts_without_rules (fun _ _ => rfl)).symm
  | cons rule rules ih =>
      have hfirst : ∀ label ∈ forest.elements, label.name = rule.name →
          ruleNamed (rule :: rules) label.name = some rule := by
        intro label _ hname
        simp [ruleNamed, hname]
      -- The elements of the first rule are gone, so the others are left to the later rules.
      have hlater : ∀ label ∈ (forest.dissolveAll rule).elements,
          ruleNamed (rule :: rules) label.name = ruleNamed rules label.name := by
        intro label hlabel
        rw [elements_dissolveAll hdistinct] at hlabel
        have hname := of_decide_eq_true (List.mem_filter.mp hlabel).2
        simp [ruleNamed, Ne.symm hname]
      calc
        (forest.applyRules (rule :: rules)).texts
            = markedTexts (fun label => ruleNamed rules label.name)
                (forest.dissolveAll rule) := ih hdistinct.dissolveAll
        _ = markedTexts (fun label => ruleNamed (rule :: rules) label.name)
                (forest.dissolveAll rule) := (markedTexts_congr hlater).symm
        _ = markedTexts (fun label => ruleNamed (rule :: rules) label.name) forest :=
          markedTexts_dissolveAll hdistinct hfirst

/-! ## Numbering -/

/-- The numbers are those from the first one on, without a gap. -/
theorem numbers_numberFrom (next : Nat) (forest : Forest String) :
    (numberFrom next forest).1.elements.map (·.number) =
      List.range' next forest.elements.length ∧
    (numberFrom next forest).2 = next + forest.elements.length := by
  induction forest generalizing next with
  | nil => exact ⟨rfl, rfl⟩
  | text content rest ih => exact ih next
  | comment content rest ih => exact ih next
  | element name inside rest ihInside ihRest =>
      obtain ⟨hinside, hbetween⟩ := ihInside (next + 1)
      obtain ⟨hrest, hfree⟩ := ihRest (numberFrom (next + 1) inside).2
      rw [hbetween] at hrest hfree
      constructor
      · simp only [numberFrom, elements, List.map_cons, List.map_append, hinside, hbetween, hrest,
          List.length_cons, List.length_append, List.range'_succ, List.range'_append_1]
      · simp only [numberFrom, hbetween, hfree, elements, List.length_cons, List.length_append]
        omega

theorem markedTexts_numberFrom (ruleOf : String → Option InlineRule) (next : Nat)
    (forest : Forest String) :
    markedTexts (fun label : Numbered => ruleOf label.name) (numberFrom next forest).1 =
      markedTexts ruleOf forest := by
  induction forest generalizing next with
  | nil => rfl
  | text content rest ih => simp only [numberFrom, markedTexts, ih]
  | comment content rest ih => simp only [numberFrom, markedTexts, ih]
  | element name inside rest ihInside ihRest => simp only [numberFrom, markedTexts, ihInside, ihRest]

theorem distinct_numbered (forest : Forest String) : forest.numbered.Distinct := by
  rw [Distinct, numbered, (numbers_numberFrom 0 forest).1]
  exact List.nodup_range'

end Forest

/-- Applying the rules one after the other to a tree, each to all its elements in turn, gives
the text that one pass over the tree reads. -/
theorem plain_eq_markedText :
    (∀ forest : Forest String, forest.plain = forest.markedText inlineRules) ∧
      ∀ text, plainText text = (Forest.ofText text).markedText inlineRules := by
  have hforest : ∀ forest : Forest String, forest.plain = forest.markedText inlineRules := by
    intro forest
    rw [Forest.plain, Forest.toText, Forest.texts_applyRules inlineRules forest.distinct_numbered,
      Forest.numbered, Forest.markedTexts_numberFrom, Forest.markedText]
  exact ⟨hforest, fun text => hforest (Forest.ofText text)⟩

/-- Elements of one name and of different names in each other, with a text between them. -/
example :
    let forest : Forest String :=
      .element "b" (.element "b" (.text "a" .nil) (.element "span"
        (.element "code" (.text "c" .nil) (.comment "d" .nil)) .nil)) (.text "e" .nil)
    forest.plain = "****a**`c`**e" := by
  decide +kernel

end Markup
end ApiStubs
