import ApiStubs.Text.Search
import Mathlib.Data.List.Infix

/-!
# Parts of a text and texts put together

Looking for a part from every position is asking whether it is a block of
consecutive characters, so what a piece of a text holds the text holds too.  Nothing
reaches over characters that the part does not have, so of texts with such characters
between them one holds the part or none does.  Lines that are joined, with a line end
behind the last one, are lines that each have theirs.
-/

namespace ApiStubs
namespace Text

theorem holdsChars_iff {part cs : List Char} :
    holdsChars part cs = true ↔ part <:+: cs := by
  induction cs with
  | nil => rw [holdsChars, List.isEmpty_iff, List.infix_nil]
  | cons c cs ih =>
      rw [holdsChars, Bool.or_eq_true, List.isPrefixOf_iff_prefix, ih,
        List.infix_cons_iff]

theorem holds_iff {text part : String} :
    holds text part = true ↔ part.toList <:+: text.toList :=
  holdsChars_iff

/-- A part of a part is held as well. -/
theorem holds_of_infix {text part inner : String} (hholds : holds text part = true)
    (hinner : inner.toList <:+: part.toList) : holds text inner = true :=
  holds_iff.mpr (hinner.trans (holds_iff.mp hholds))

/-! ## Beginnings -/

theorem startsWith_iff {text start : String} :
    startsWith text start = true ↔ start.toList <+: text.toList :=
  List.isPrefixOf_iff_prefix

/-- A text does not start with another one that has a character it has not. -/
theorem startsWith_eq_false_of_not_mem {text start : String} {c : Char}
    (hstart : c ∈ start.toList) (htext : c ∉ text.toList) : startsWith text start = false := by
  rw [Bool.eq_false_iff, Ne, startsWith_iff]
  exact fun hbegins => htext (hbegins.subset hstart)

/-- Only as many characters matter as the beginning has. -/
theorem startsWith_append {text start : String} (hlength : start.length ≤ text.length)
    (rest : String) : startsWith (text ++ rest) start = startsWith text start := by
  rw [Bool.eq_iff_iff, startsWith_iff, startsWith_iff, String.toList_append]
  constructor
  · intro hbegins
    rw [← String.length_toList, ← String.length_toList] at hlength
    exact List.prefix_of_prefix_length_le hbegins (List.prefix_append _ _) hlength
  · exact fun hbegins => hbegins.trans (List.prefix_append _ _)

theorem startsWith_append_self (start rest : String) : startsWith (start ++ rest) start = true := by
  rw [startsWith_iff, String.toList_append]
  exact List.prefix_append _ _

theorem dropStart?_append (start rest : String) : dropStart? start (start ++ rest) = some rest := by
  rw [dropStart?, startsWith_append_self, if_pos rfl, String.toList_append, ← String.length_toList,
    List.drop_left, String.ofList_toList]

theorem dropStart?_eq_none {text start : String} (hother : startsWith text start = false) :
    dropStart? start text = none := by
  rw [dropStart?, hother]
  rfl

/-! ## Joined texts -/

theorem joinWith_singleton (separator text : String) : joinWith separator [text] = text :=
  String.intercalate_singleton

theorem joinWith_cons {rest : List String} (hne : rest ≠ []) (separator text : String) :
    joinWith separator (text :: rest) = text ++ separator ++ joinWith separator rest :=
  String.intercalate_cons_of_ne_nil hne

/-- Texts that are not all empty are not joined to an empty one. -/
theorem joinWith_ne_empty {texts : List String} {text : String} (htext : text ∈ texts)
    (hne : text ≠ "") (separator : String) : joinWith separator texts ≠ "" := by
  induction texts with
  | nil => contradiction
  | cons first rest ih =>
      by_cases hrest : rest = []
      · subst hrest
        rw [List.mem_singleton] at htext
        subst htext
        rw [joinWith_singleton]
        exact hne
      · rw [joinWith_cons hrest, Ne, String.append_eq_empty_iff, String.append_eq_empty_iff]
        rintro ⟨⟨rfl, -⟩, hjoined⟩
        rcases List.mem_cons.mp htext with rfl | hmem
        · exact hne rfl
        · exact ih hmem hjoined

/-- A character of a joined text is one of the texts or of what stands between them. -/
theorem mem_joinWith {separator : String} {texts : List String} {c : Char}
    (hc : c ∈ (joinWith separator texts).toList) :
    c ∈ separator.toList ∨ ∃ text ∈ texts, c ∈ text.toList := by
  induction texts with
  | nil => simp [joinWith] at hc
  | cons text rest ih =>
      by_cases hrest : rest = []
      · subst hrest
        rw [joinWith_singleton] at hc
        exact .inr ⟨text, List.mem_singleton_self text, hc⟩
      · rw [joinWith_cons hrest, String.toList_append, String.toList_append, List.mem_append,
          List.mem_append] at hc
        rcases hc with (hfirst | hbetween) | hlater
        · exact .inr ⟨text, List.mem_cons_self, hfirst⟩
        · exact .inl hbetween
        · refine (ih hlater).imp_right ?_
          rintro ⟨other, hother, hmem⟩
          exact ⟨other, List.mem_cons_of_mem text hother, hmem⟩

theorem joinWith_newline {texts : List String} (hne : texts ≠ []) :
    joinWith "\n" texts ++ "\n" = String.join (texts.map (· ++ "\n")) := by
  induction texts with
  | nil => contradiction
  | cons text rest ih =>
      by_cases hrest : rest = []
      · subst hrest
        rw [joinWith_singleton, List.map_singleton, String.join_cons, String.join_nil,
          String.append_empty]
      · rw [joinWith_cons hrest, String.append_assoc, ih hrest, List.map_cons,
          String.join_cons]

/-! ## Parts of texts put together -/

section

variable {part between : List Char}

/-- What starts in the first part does not reach over a character that it has not. -/
theorem isPrefix_append_cons_iff {c : Char} (hc : c ∉ part) (first rest : List Char) :
    part <+: first ++ c :: rest ↔ part <+: first := by
  constructor
  · rintro ⟨after, hafter⟩
    rcases List.append_eq_append_iff.mp hafter with ⟨inner, hfirst, -⟩ | ⟨beyond, hpart, hbeyond⟩
    · exact ⟨inner, hfirst.symm⟩
    · cases beyond with
      | nil => simp [hpart]
      | cons d beyond =>
          rw [List.cons_append, List.cons.injEq] at hbeyond
          exact absurd (by simp [hpart, hbeyond.1]) hc
  · exact fun hbegins => hbegins.trans (List.prefix_append _ _)

theorem isInfix_append_cons_iff {c : Char} (hc : c ∉ part) (first rest : List Char) :
    part <:+: first ++ c :: rest ↔ part <:+: first ∨ part <:+: rest := by
  induction first with
  | nil =>
      have hstart := isPrefix_append_cons_iff hc [] rest
      rw [List.nil_append] at hstart ⊢
      rw [List.infix_cons_iff, hstart, List.prefix_nil, List.infix_nil]
  | cons d first ih =>
      have hstart := isPrefix_append_cons_iff hc (d :: first) rest
      rw [List.cons_append] at hstart ⊢
      rw [List.infix_cons_iff, hstart, ih, List.infix_cons_iff, or_assoc]

theorem isInfix_free_append_iff (hfree : ∀ c ∈ between, c ∉ part) (rest : List Char) :
    part <:+: between ++ rest ↔ part <:+: rest := by
  induction between with
  | nil => rw [List.nil_append]
  | cons c between ih =>
      obtain ⟨hc, hlater⟩ := List.forall_mem_cons.mp hfree
      have hcut := isInfix_append_cons_iff hc [] (between ++ rest)
      rw [List.nil_append, ih hlater] at hcut
      rw [List.cons_append, hcut, or_iff_right_of_imp]
      exact fun hempty => hempty.trans (List.nil_infix)

theorem isInfix_append_between_iff (hne : between ≠ []) (hfree : ∀ c ∈ between, c ∉ part)
    (first rest : List Char) :
    part <:+: first ++ (between ++ rest) ↔ part <:+: first ∨ part <:+: rest := by
  cases between with
  | nil => contradiction
  | cons c between =>
      obtain ⟨hc, hlater⟩ := List.forall_mem_cons.mp hfree
      rw [List.cons_append, isInfix_append_cons_iff hc, isInfix_free_append_iff hlater]

theorem isInfix_append_free_iff (hfree : ∀ c ∈ between, c ∉ part) (first : List Char) :
    part <:+: first ++ between ↔ part <:+: first := by
  cases between with
  | nil => rw [List.append_nil]
  | cons c between =>
      have hcut := isInfix_append_between_iff (List.cons_ne_nil c between) hfree first []
      rw [List.append_nil] at hcut
      rw [hcut, or_iff_left_of_imp]
      exact fun hempty => hempty.trans List.nil_infix

end

section

variable {part between : String}

theorem holds_free_append (hfree : ∀ c ∈ between.toList, c ∉ part.toList) (rest : String) :
    holds (between ++ rest) part = holds rest part := by
  rw [Bool.eq_iff_iff, holds_iff, holds_iff, String.toList_append, isInfix_free_append_iff hfree]

/-- No part reaches over a text between that has none of its characters. -/
theorem holds_append_between (hne : between ≠ "")
    (hfree : ∀ c ∈ between.toList, c ∉ part.toList) (first rest : String) :
    holds (first ++ (between ++ rest)) part = (holds first part || holds rest part) := by
  rw [Bool.eq_iff_iff, Bool.or_eq_true, holds_iff, holds_iff, holds_iff, String.toList_append,
    String.toList_append, isInfix_append_between_iff (by simpa using hne) hfree]

theorem holds_append_free (hfree : ∀ c ∈ between.toList, c ∉ part.toList) (first : String) :
    holds (first ++ between) part = holds first part := by
  rw [Bool.eq_iff_iff, holds_iff, holds_iff, String.toList_append, isInfix_append_free_iff hfree]

theorem holds_joinWith {texts : List String} (htexts : texts ≠ []) (hne : between ≠ "")
    (hfree : ∀ c ∈ between.toList, c ∉ part.toList) :
    holds (joinWith between texts) part = texts.any (holds · part) := by
  induction texts with
  | nil => contradiction
  | cons text rest ih =>
      by_cases hrest : rest = []
      · subst hrest
        simp [joinWith_singleton]
      · rw [joinWith_cons hrest, String.append_assoc, holds_append_between hne hfree, ih hrest,
          List.any_cons]

end

end Text
end ApiStubs
