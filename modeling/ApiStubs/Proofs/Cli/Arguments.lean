import ApiStubs.Proofs.Cli.Grammar

/-!
# What a command line gives

In a command line that is read, no value starts with a dash.  So an argument that looks like
an option is one: a mark counts wherever it stands, and what an option gives is the last
argument that stands behind one of its names.
-/

namespace ApiStubs
namespace Cli

/-- The arguments that stand right behind one of the names. -/
def valuesBehind (names arguments : List String) : List String :=
  ((arguments.zip arguments.tail).filter (fun pair => pair.1 ∈ names)).map (·.2)

theorem valuesBehind_cons_of_not_mem {names : List String} {argument : String}
    (hargument : argument ∉ names) (rest : List String) :
    valuesBehind names (argument :: rest) = valuesBehind names rest := by
  cases rest with
  | nil => rfl
  | cons next rest => simp [valuesBehind, hargument]

theorem valuesBehind_cons_of_mem {names : List String} {argument : String}
    (hargument : argument ∈ names) (value : String) (rest : List String) :
    valuesBehind names (argument :: value :: rest) =
      value :: valuesBehind names (value :: rest) := by
  simp [valuesBehind, hargument]

namespace Item

variable {item : Item} {items : List Item} {argument : String}

theorem mem_spell : argument ∈ spell items ↔ ∃ item ∈ items, argument ∈ item.words :=
  List.mem_flatMap

/-- An argument with a dash is the name of an option or a mark. -/
theorem known_of_mem_words (hmem : argument ∈ item.words)
    (hdash : Text.startsWith argument "-" = true) :
    (∃ option : ValueOption, argument ∈ option.names) ∨
      ∃ mark : Mark, argument = mark.text ∧ item = .mark mark := by
  cases item with
  | mark mark => exact .inr ⟨mark, List.mem_singleton.mp hmem, rfl⟩
  | setting option name value hname hvalue =>
      rw [words, List.mem_cons, List.mem_singleton] at hmem
      rcases hmem with rfl | rfl
      · exact .inl ⟨option, hname⟩
      · rw [hvalue] at hdash
        contradiction
  | file path hpath =>
      rw [List.mem_singleton.mp hmem, hpath] at hdash
      contradiction

theorem mark_mem_spell_iff {mark : Mark} : mark.text ∈ spell items ↔ .mark mark ∈ items := by
  rw [mem_spell]
  constructor
  · rintro ⟨item, hitem, hmem⟩
    rcases known_of_mem_words hmem mark.startsWith_text with ⟨option, hname⟩ | ⟨other, hsame, rfl⟩
    · rw [ValueOption.mem_names_iff, mark.ofText?_text] at hname
      contradiction
    · rwa [Mark.text_injective hsame]
  · exact fun hmem => ⟨_, hmem, List.mem_singleton_self _⟩

/-- What stands behind the names of an option is what the items set it to. -/
theorem valuesBehind_spell (option : ValueOption) (items : List Item) :
    valuesBehind option.names (spell items) = items.filterMap (valueOf? option) := by
  induction items with
  | nil => rfl
  | cons item items ih =>
      have hplain : ∀ argument, Text.startsWith argument "-" = false →
          argument ∉ option.names := by
        intro argument hdash hname
        rw [ValueOption.startsWith_of_mem_names hname] at hdash
        contradiction
      rw [spell, List.flatMap_cons, List.filterMap_cons]
      cases item with
      | mark mark =>
          have hmark : mark.text ∉ option.names := by
            rw [ValueOption.mem_names_iff, mark.ofText?_text]
            simp
          rw [words, List.singleton_append, valuesBehind_cons_of_not_mem hmark]
          exact ih
      | setting given name value hname hvalue =>
          rw [words, List.cons_append, List.singleton_append]
          by_cases hsame : given = option
          · subst hsame
            rw [valuesBehind_cons_of_mem hname, valuesBehind_cons_of_not_mem (hplain _ hvalue),
              valueOf?, if_pos rfl]
            exact congrArg (value :: ·) ih
          · have hother : name ∉ option.names := by
              rw [ValueOption.mem_names_iff] at hname ⊢
              rwa [hname, Option.some.injEq]
            rw [valuesBehind_cons_of_not_mem hother,
              valuesBehind_cons_of_not_mem (hplain _ hvalue), valueOf?, if_neg hsame]
            exact ih
      | file path hpath =>
          rw [words, List.singleton_append, valuesBehind_cons_of_not_mem (hplain _ hpath)]
          exact ih

end Item

namespace Arguments

/-- Whether a mark is set. -/
def marked (arguments : Arguments) : Mark → Bool
  | .strict => arguments.strict
  | .dryRun => arguments.dryRun

variable {parsed : Arguments} {line : List String}

theorem parse_marked_iff (hparsed : parse line = .ok parsed) (mark : Mark) :
    parsed.marked mark = true ↔ mark.text ∈ line := by
  obtain ⟨items, rfl, rfl, -⟩ := exists_items_of_parse hparsed
  rw [Item.mark_mem_spell_iff]
  cases mark <;> exact decide_eq_true_iff

theorem parse_configPath (hparsed : parse line = .ok parsed) :
    parsed.configPath = (valuesBehind ValueOption.config.names line).getLast? := by
  obtain ⟨items, rfl, rfl, -⟩ := exists_items_of_parse hparsed
  rw [Item.valuesBehind_spell]
  rfl

theorem parse_outDir (hparsed : parse line = .ok parsed) :
    parsed.outDir = (valuesBehind ValueOption.out.names line).getLast? := by
  obtain ⟨items, rfl, rfl, -⟩ := exists_items_of_parse hparsed
  rw [Item.valuesBehind_spell]
  rfl

theorem not_mem_of_parse (hparsed : parse line = .ok parsed) {argument : String}
    (hdash : Text.startsWith argument "-" = true)
    (hnone : ValueOption.ofText? argument = none)
    (hmarks : ∀ mark : Mark, argument ≠ mark.text) : argument ∉ line := by
  obtain ⟨items, rfl, -, -⟩ := exists_items_of_parse hparsed
  rw [Item.mem_spell]
  rintro ⟨item, -, hmem⟩
  rcases Item.known_of_mem_words hmem hdash with ⟨option, hname⟩ | ⟨mark, hmark, -⟩
  · exact ValueOption.ofText?_eq_none_iff.mp hnone option hname
  · exact hmarks mark hmark

/-- A command line that asks for help is not read. -/
theorem no_help_of_parse (hparsed : parse line = .ok parsed) :
    "--help" ∉ line ∧ "-h" ∉ line :=
  ⟨not_mem_of_parse hparsed (by decide) rfl (fun mark => by cases mark <;> decide),
    not_mem_of_parse hparsed (by decide) rfl (fun mark => by cases mark <;> decide)⟩

end Arguments
end Cli
end ApiStubs
