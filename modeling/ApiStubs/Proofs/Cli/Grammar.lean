import ApiStubs.Cli.Arguments
import ApiStubs.Proofs.Except
import Mathlib.Data.List.Induction

/-!
# The grammar of a command line

From the left a command line is cut into items: a mark, an option with its value, or a file.
Reading goes on item by item, and what it has gathered after some items is a matter of these
items alone.  It stops at the first argument that starts no item, so a command line is either
cut into items to its end or has an argument of that kind behind its first items.
-/

namespace ApiStubs
namespace Cli

/-- An option without a value. -/
inductive Mark where
  | strict
  | dryRun
  deriving DecidableEq, Repr

def Mark.text : Mark → String
  | strict => "--strict"
  | dryRun => "--dry-run"

theorem Mark.text_injective : Function.Injective Mark.text := by
  intro first second
  cases first <;> cases second <;> simp [Mark.text]

theorem Mark.startsWith_text (mark : Mark) : Text.startsWith mark.text "-" = true := by
  cases mark <;> decide

theorem Mark.ofText?_text (mark : Mark) : ValueOption.ofText? mark.text = none := by
  cases mark <;> rfl

namespace ValueOption

variable {option : ValueOption} {argument : String}

/-- The names of an option with a value. -/
def names : ValueOption → List String
  | config => ["--config", "-c"]
  | out => ["--out", "-o"]
  | version => ["--version"]

theorem mem_names_iff : argument ∈ option.names ↔ ofText? argument = some option := by
  unfold ofText?
  cases option <;> split <;> simp_all [names]

theorem ofText?_eq_none_iff :
    ofText? argument = none ↔ ∀ option : ValueOption, argument ∉ option.names := by
  simp only [mem_names_iff, Option.eq_none_iff_forall_not_mem, Option.mem_def]

theorem startsWith_of_mem_names (hargument : argument ∈ option.names) :
    Text.startsWith argument "-" = true := by
  have hall : ∀ name ∈ option.names, Text.startsWith name "-" = true := by
    cases option <;> decide
  exact hall argument hargument

theorem ofText?_eq_none_of_noDash (hplain : Text.startsWith argument "-" = false) :
    ofText? argument = none := by
  rw [ofText?_eq_none_iff]
  intro option hname
  rw [startsWith_of_mem_names hname] at hplain
  contradiction

end ValueOption

/-- One argument, or an option with its value. -/
inductive Item where
  | mark (mark : Mark)
  | setting (option : ValueOption) (name value : String) (hname : name ∈ option.names)
      (hvalue : Text.startsWith value "-" = false)
  | file (path : String) (hpath : Text.startsWith path "-" = false)
  deriving DecidableEq

namespace Item

def words : Item → List String
  | mark m => [m.text]
  | setting _ name value _ _ => [name, value]
  | file path _ => [path]

/-- The command line that the items make up. -/
def spell (items : List Item) : List String :=
  items.flatMap words

theorem spell_append (first second : List Item) :
    spell (first ++ second) = spell first ++ spell second :=
  List.flatMap_append

def file? : Item → Option String
  | file path _ => some path
  | _ => none

def valueOf? (option : ValueOption) : Item → Option String
  | setting given _ value _ _ => if given = option then some value else none
  | _ => none

end Item

/-- All files in their order, the last value of each option, and the marks there are. -/
def Arguments.ofItems (items : List Item) : Arguments where
  files := items.filterMap Item.file?
  configPath := (items.filterMap (Item.valueOf? .config)).getLast?
  outDir := (items.filterMap (Item.valueOf? .out)).getLast?
  version := (items.filterMap (Item.valueOf? .version)).getLast?.getD "0.0.0"
  strict := decide (.mark .strict ∈ items)
  dryRun := decide (.mark .dryRun ∈ items)

/-- The argument starts no item, whatever came before it. -/
inductive Offends : String → List String → UsageFault → Prop where
  | missingValue {option : ValueOption} {argument : String} {rest : List String}
      (hname : argument ∈ option.names)
      (hvalue : ∀ value ∈ rest.head?, Text.startsWith value "-" = true) :
      Offends argument rest (.missingValue argument)
  | unknownOption {argument : String} {rest : List String}
      (hdash : Text.startsWith argument "-" = true)
      (hoption : ∀ option : ValueOption, argument ∉ option.names)
      (hmark : ∀ mark : Mark, argument ≠ mark.text) :
      Offends argument rest (.unknownOption argument)

theorem item_or_offends (argument : String) (rest : List String) :
    (∃ item : Item, ∃ later, item.words ++ later = argument :: rest) ∨
      ∃ fault, Offends argument rest fault := by
  by_cases hoption : ∃ option : ValueOption, argument ∈ option.names
  · obtain ⟨option, hname⟩ := hoption
    cases rest with
    | nil => exact .inr ⟨_, .missingValue hname (by simp)⟩
    | cons value later =>
        cases hdash : Text.startsWith value "-" with
        | true => exact .inr ⟨_, .missingValue hname (by simpa using hdash)⟩
        | false => exact .inl ⟨.setting option argument value hname hdash, later, rfl⟩
  · by_cases hmark : ∃ mark : Mark, argument = mark.text
    · obtain ⟨mark, rfl⟩ := hmark
      exact .inl ⟨.mark mark, rest, rfl⟩
    · cases hdash : Text.startsWith argument "-" with
      | true =>
          exact .inr ⟨_, .unknownOption hdash (not_exists.mp hoption) (not_exists.mp hmark)⟩
      | false => exact .inl ⟨.file argument hdash, rest, rfl⟩

/-- A command line is cut into items up to its end or up to an argument that starts none. -/
theorem exists_items (line : List String) :
    (∃ items, Item.spell items = line) ∨
      ∃ items argument rest fault, Item.spell items ++ argument :: rest = line ∧
        Offends argument rest fault := by
  -- An item takes one argument or two, so the induction is on the length of the line.
  induction hlength : line.length using Nat.strongRecOn generalizing line with
  | ind length ih =>
      cases line with
      | nil => exact .inl ⟨[], rfl⟩
      | cons argument rest =>
          rcases item_or_offends argument rest with ⟨item, later, hline⟩ | ⟨fault, hoffends⟩
          · have hshorter : later.length < length := by
              have hpos : 0 < item.words.length := by cases item <;> simp [Item.words]
              rw [← hlength, ← hline, List.length_append]
              omega
            rw [← hline]
            rcases ih later.length hshorter later rfl with
              ⟨items, rfl⟩ | ⟨items, other, after, fault, rfl, hoffends⟩
            · exact .inl ⟨item :: items, rfl⟩
            · refine .inr ⟨item :: items, other, after, fault, ?_, hoffends⟩
              simp [Item.spell]
          · exact .inr ⟨[], argument, rest, fault, rfl, hoffends⟩

namespace Arguments

variable {argument : String} {arguments : Arguments} {rest : List String} {fault : UsageFault}

/-! ## Reading an item -/

def take (arguments : Arguments) : Item → Arguments
  | .mark .strict => { arguments with strict := true }
  | .mark .dryRun => { arguments with dryRun := true }
  | .setting option _ value _ _ => arguments.setValue option value
  | .file path _ => { arguments with files := arguments.files ++ [path] }

theorem addPlain_mark (mark : Mark) :
    arguments.addPlain mark.text = .ok (arguments.take (.mark mark)) := by
  cases mark <;> simp [addPlain, take, Mark.text]

theorem addPlain_of_not_mark (hmark : ∀ mark : Mark, argument ≠ mark.text) :
    arguments.addPlain argument =
      if Text.startsWith argument "-" then .error (.unknownOption argument)
      else .ok { arguments with files := arguments.files ++ [argument] } := by
  have hstrict : argument ≠ "--strict" := hmark .strict
  have hdry : argument ≠ "--dry-run" := hmark .dryRun
  rw [addPlain, if_neg hstrict, if_neg hdry]

theorem readFrom_plain (hnone : ValueOption.ofText? argument = none) (rest : List String) :
    arguments.readFrom (argument :: rest) =
      arguments.addPlain argument >>= fun added => added.readFrom rest := by
  rw [readFrom, hnone]
  cases arguments.addPlain argument <;> rfl

theorem readFrom_item (item : Item) (rest : List String) :
    arguments.readFrom (item.words ++ rest) = (arguments.take item).readFrom rest := by
  cases item with
  | mark mark =>
      rw [Item.words, List.singleton_append, readFrom_plain mark.ofText?_text, addPlain_mark,
        ok_bind]
  | setting option name value hname hvalue =>
      rw [Item.words, List.cons_append, readFrom, ValueOption.mem_names_iff.mp hname]
      simp [hvalue, take]
  | file path hpath =>
      have hmark : ∀ mark : Mark, path ≠ mark.text := by
        rintro mark rfl
        rw [mark.startsWith_text] at hpath
        contradiction
      rw [Item.words, List.singleton_append,
        readFrom_plain (ValueOption.ofText?_eq_none_of_noDash hpath), addPlain_of_not_mark hmark,
        if_neg (Bool.eq_false_iff.mp hpath), ok_bind, take]

theorem ofItems_concat (items : List Item) (item : Item) :
    ofItems (items ++ [item]) = (ofItems items).take item := by
  cases item with
  | mark mark => cases mark <;> simp [ofItems, take, Item.file?, Item.valueOf?]
  | setting option name value hname hvalue =>
      cases option <;> simp [ofItems, take, setValue, Item.file?, Item.valueOf?]
  | file path hpath => simp [ofItems, take, Item.file?, Item.valueOf?]

theorem readFrom_spell (items : List Item) (rest : List String) :
    readFrom {} (Item.spell items ++ rest) = (ofItems items).readFrom rest := by
  -- The last item is read with what all items before it have given.
  induction items using List.reverseRecOn generalizing rest with
  | nil => rfl
  | append_singleton items item ih =>
      have hwords : Item.spell (items ++ [item]) ++ rest =
          Item.spell items ++ (item.words ++ rest) := by
        simp [Item.spell]
      rw [hwords, ih, readFrom_item, ofItems_concat]

theorem readFrom_of_offends (hoffends : Offends argument rest fault) :
    arguments.readFrom (argument :: rest) = .error fault := by
  cases hoffends with
  | missingValue hname hvalue =>
      rw [readFrom, ValueOption.mem_names_iff.mp hname]
      cases rest with
      | nil => rfl
      | cons value rest => simp [hvalue value rfl]
  | unknownOption hdash hoption hmark =>
      rw [readFrom_plain (ValueOption.ofText?_eq_none_iff.mpr hoption), addPlain_of_not_mark hmark,
        if_pos hdash, error_bind]

theorem readFrom_eq_ok_iff {line : List String} :
    readFrom {} line = .ok arguments ↔
      ∃ items, Item.spell items = line ∧ arguments = ofItems items := by
  have hspell : ∀ items, readFrom {} (Item.spell items) = .ok (ofItems items) := by
    intro items
    have hread := readFrom_spell items []
    rwa [List.append_nil] at hread
  constructor
  · intro hread
    rcases exists_items line with
      ⟨items, rfl⟩ | ⟨items, argument, rest, fault, rfl, hoffends⟩
    · rw [hspell, Except.ok.injEq] at hread
      exact ⟨items, rfl, hread.symm⟩
    · rw [readFrom_spell, readFrom_of_offends hoffends] at hread
      contradiction
  · rintro ⟨items, rfl, rfl⟩
    exact hspell items

/-! ## The whole command line -/

theorem parse_spell (items : List Item) :
    parse (Item.spell items) =
      if (ofItems items).files = [] then .error .noFiles else .ok (ofItems items) := by
  rw [parse, readFrom_eq_ok_iff.mpr ⟨items, rfl, rfl⟩, ok_bind]
  simp only [List.isEmpty_iff]
  split <;> rfl

theorem parse_of_offends (items : List Item) (hoffends : Offends argument rest fault) :
    parse (Item.spell items ++ argument :: rest) = .error fault := by
  rw [parse, readFrom_spell, readFrom_of_offends hoffends, error_bind]

theorem exists_items_of_parse {line : List String} (hparse : parse line = .ok arguments) :
    ∃ items, Item.spell items = line ∧ arguments = ofItems items ∧ arguments.files ≠ [] := by
  rw [parse] at hparse
  obtain ⟨reached, hread, hreached⟩ := exists_ok_of_bind hparse
  obtain ⟨items, rfl, rfl⟩ := readFrom_eq_ok_iff.mp hread
  dsimp only at hreached
  split at hreached
  next => contradiction
  next hfiles =>
    obtain rfl := Except.ok.inj hreached
    exact ⟨items, rfl, rfl, fun hnil => hfiles (List.isEmpty_iff.mpr hnil)⟩

/-- A command line is read exactly if it is cut into items, a file among them; it says what the
items say.  Otherwise the fault is that of the first argument which starts no item, or that
there is no file. -/
theorem parse_follows_grammar (line : List String) :
    (∀ arguments, parse line = .ok arguments ↔
      ∃ items, Item.spell items = line ∧ arguments = ofItems items ∧ arguments.files ≠ []) ∧
    (∀ fault, parse line = .error fault ↔
      (∃ items argument rest,
        Item.spell items ++ argument :: rest = line ∧ Offends argument rest fault) ∨
      ∃ items, Item.spell items = line ∧ (ofItems items).files = [] ∧ fault = .noFiles) := by
  constructor
  · intro arguments
    refine ⟨exists_items_of_parse, ?_⟩
    rintro ⟨items, rfl, rfl, hfiles⟩
    rw [parse_spell, if_neg hfiles]
  · intro fault
    constructor
    · intro hparse
      rcases exists_items line with
        ⟨items, rfl⟩ | ⟨items, argument, rest, first, rfl, hoffends⟩
      · rw [parse_spell] at hparse
        split at hparse
        next hfiles => exact .inr ⟨items, rfl, hfiles, (Except.error.inj hparse).symm⟩
        next => contradiction
      · rw [parse_of_offends items hoffends, Except.error.injEq] at hparse
        exact .inl ⟨items, argument, rest, rfl, hparse ▸ hoffends⟩
    · rintro (⟨items, argument, rest, rfl, hoffends⟩ | ⟨items, rfl, hfiles, rfl⟩)
      · exact parse_of_offends items hoffends
      · rw [parse_spell, if_pos hfiles]

/-- What follows an option is its value only if it has no dash. -/
example : parse ["x.json", "-c", "a", "--config", "--strict"] =
    .error (.missingValue "--config") := by
  decide

end Arguments
end Cli
end ApiStubs
