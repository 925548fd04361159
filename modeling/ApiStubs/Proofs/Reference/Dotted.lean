import ApiStubs.Proofs.Reference.Mention
import ApiStubs.Proofs.Text.Split

/-!
# Spaces made of identifiers

The space of a mention is a text of identifiers with dots between them, and every text of
that kind can be read as one: the identifiers are taken one after the other, as far as they
go.
-/

namespace ApiStubs
namespace Reference

/-! ## Spaces made of identifiers -/

/-- A word that starts with a letter or an underscore. -/
def isIdentifier : List Char → Bool
  | [] => false
  | c :: cs => startsWord c && cs.all inWord

/-- The text is made of identifiers with dots between them. -/
def Dotted (text : String) : Prop :=
  ∀ piece ∈ Text.split '.' text, isIdentifier piece.toList = true

instance (text : String) : Decidable (Dotted text) :=
  inferInstanceAs (Decidable (∀ _ ∈ _, _))

theorem inWord_of_startsWord {c : Char} (hstart : startsWord c = true) : inWord c = true := by
  rw [inWord, hstart, Bool.true_or]

theorem isIdentifier_takeWhile {cs : List Char} (hstart : cs.head?.any startsWord = true) :
    isIdentifier (cs.takeWhile inWord) = true := by
  cases cs with
  | nil => contradiction
  | cons c cs =>
      have hc : startsWord c = true := by simpa using hstart
      rw [List.takeWhile_cons_of_pos (inWord_of_startsWord hc), isIdentifier, hc, Bool.true_and,
        List.all_takeWhile]

theorem inWord_of_isIdentifier {identifier : List Char}
    (hidentifier : isIdentifier identifier = true) : ∀ c ∈ identifier, inWord c = true := by
  cases identifier with
  | nil => contradiction
  | cons c cs =>
      rw [isIdentifier, Bool.and_eq_true, List.all_eq_true] at hidentifier
      exact List.forall_mem_cons.mpr ⟨inWord_of_startsWord hidentifier.1, hidentifier.2⟩

theorem dot_not_mem_of_isIdentifier {identifier : List Char}
    (hidentifier : isIdentifier identifier = true) : '.' ∉ identifier := by
  intro hmem
  have hdot : inWord '.' = false := by decide
  rw [inWord_of_isIdentifier hidentifier '.' hmem] at hdot
  contradiction

/-- Identifiers that are joined with dots can be told apart again. -/
theorem dotted_spaceOf {chain : List (List Char)} (hne : chain ≠ [])
    (hchain : ∀ identifier ∈ chain, isIdentifier identifier = true) : Dotted (spaceOf chain) := by
  have hpieces : ∀ piece ∈ chain.reverse.map String.ofList, isIdentifier piece.toList = true := by
    intro piece hpiece
    obtain ⟨identifier, hmem, rfl⟩ := List.mem_map.mp hpiece
    rw [String.toList_ofList]
    exact hchain identifier (List.mem_reverse.mp hmem)
  have hsplit : Text.split '.' (spaceOf chain) = chain.reverse.map String.ofList :=
    Text.split_joinWith (by simpa using hne)
      (fun piece hpiece => dot_not_mem_of_isIdentifier (hpieces piece hpiece))
  unfold Dotted
  rw [hsplit]
  exact hpieces

/-- The characters of identifiers, each of them behind a dot. -/
def behindDots (identifiers : List (List Char)) : List Char :=
  identifiers.flatMap (fun identifier => '.' :: identifier)

theorem intercalate_dot (first : List Char) (identifiers : List (List Char)) :
    ['.'].intercalate (first :: identifiers) = first ++ behindDots identifiers := by
  induction identifiers generalizing first with
  | nil => simp [behindDots]
  | cons second identifiers ih =>
      rw [List.intercalate_cons_cons, ih second]
      simp [behindDots]

/-- A dotted text begins with an identifier, and the others follow behind dots. -/
theorem Dotted.exists_identifiers {text : String} (hdotted : Dotted text) :
    ∃ first identifiers, isIdentifier first = true ∧
      (∀ identifier ∈ identifiers, isIdentifier identifier = true) ∧
      text.toList = first ++ behindDots identifiers ∧
      spaceOf (identifiers.reverse ++ [first]) = text := by
  have hpieces : ∀ piece ∈ Text.splitChars '.' text.toList, isIdentifier piece = true := by
    intro piece hpiece
    have hmem : String.ofList piece ∈ Text.split '.' text := List.mem_map_of_mem hpiece
    simpa using hdotted _ hmem
  cases hsplit : Text.splitChars '.' text.toList with
  | nil => exact absurd hsplit (Text.splitChars_ne_nil _ _)
  | cons first identifiers =>
      rw [hsplit, List.forall_mem_cons] at hpieces
      have htext : text.toList = first ++ behindDots identifiers := by
        rw [← intercalate_dot, ← hsplit, Text.splitChars_eq_splitOn, List.intercalate_splitOn]
      have hjoined : (first :: identifiers).map String.ofList = Text.split '.' text := by
        rw [Text.split, hsplit]
      refine ⟨first, identifiers, hpieces.1, hpieces.2, htext, ?_⟩
      rw [spaceOf, List.reverse_append, List.reverse_reverse, List.reverse_singleton,
        List.singleton_append, hjoined]
      exact Text.joinWith_split '.' text

/-- A dotted text has no other characters than those of words, and dots. -/
theorem Dotted.not_mem {text : String} (hdotted : Dotted text) {c : Char}
    (hother : inWord c = false) (hdot : c ≠ '.') : c ∉ text.toList := by
  obtain ⟨first, identifiers, hfirst, hidentifiers, htext, -⟩ := hdotted.exists_identifiers
  have hword : ∀ identifier, isIdentifier identifier = true → c ∉ identifier := by
    intro identifier hidentifier hmem
    rw [inWord_of_isIdentifier hidentifier c hmem] at hother
    contradiction
  rw [htext, List.mem_append, behindDots, List.mem_flatMap]
  rintro (hmem | ⟨identifier, hmem, hc⟩)
  · exact hword first hfirst hmem
  · exact hword identifier (hidentifiers identifier hmem) ((List.mem_cons.mp hc).resolve_left hdot)

/-! ## Reading a chain of identifiers -/

/-- No chain of identifiers goes on with the characters. -/
def endsChain : List Char → Bool
  | [] => true
  | c :: cs => !inWord c && !(c = '.' && cs.head?.any startsWord)

variable {current rest : List Char} {before : List (List Char)}

theorem readChain_word {word : List Char} (hword : ∀ c ∈ word, inWord c = true) :
    readChain current before (word ++ rest) = readChain (word.reverse ++ current) before rest := by
  induction word generalizing current with
  | nil => rfl
  | cons c word ih =>
      rw [List.forall_mem_cons] at hword
      rw [List.cons_append, readChain.eq_def]
      simp only [hword.1, if_true]
      rw [ih hword.2, List.reverse_cons, List.append_assoc, List.singleton_append]

theorem readChain_dot {d : Char} (hstart : startsWord d = true) :
    readChain current before ('.' :: d :: rest) =
      readChain [d] (current.reverse :: before) rest := by
  have hdot : inWord '.' = false := by decide
  rw [readChain.eq_def]
  simp only [hdot, hstart, Bool.false_eq_true, if_false, if_true]

theorem readChain_end (hend : endsChain rest = true) :
    readChain current before rest = (current.reverse :: before, rest) := by
  cases rest with
  | nil => rfl
  | cons c cs =>
      simp only [endsChain, Bool.and_eq_true, Bool.not_eq_true'] at hend
      rw [readChain.eq_def]
      simp only [hend.1, Bool.false_eq_true, if_false]
      split
      next hdot =>
        cases cs with
        | nil => rfl
        | cons d cs =>
            have hother : startsWord d = false := by simpa [hdot] using hend.2
            simp only [hother, Bool.false_eq_true, if_false]
      next => rfl

theorem readChain_behindDots {identifiers : List (List Char)}
    (hidentifiers : ∀ identifier ∈ identifiers, isIdentifier identifier = true)
    (hend : endsChain rest = true) :
    readChain current before (behindDots identifiers ++ rest) =
      (identifiers.reverse ++ current.reverse :: before, rest) := by
  induction identifiers generalizing current before with
  | nil => exact readChain_end hend
  | cons identifier identifiers ih =>
      rw [List.forall_mem_cons] at hidentifiers
      obtain ⟨hfirst, hlater⟩ := hidentifiers
      cases identifier with
      | nil => contradiction
      | cons d word =>
          rw [isIdentifier, Bool.and_eq_true, List.all_eq_true] at hfirst
          have hchars : behindDots ((d :: word) :: identifiers) ++ rest =
              '.' :: d :: (word ++ (behindDots identifiers ++ rest)) := by
            simp [behindDots]
          rw [hchars, readChain_dot hfirst.1, readChain_word hfirst.2, ih hlater]
          simp

/-- Reading a dotted text, with more identifiers behind it, takes all of them. -/
theorem Dotted.exists_readChain {text : String} (hdotted : Dotted text) :
    ∃ c cs chain, text.toList = c :: cs ∧ startsWord c = true ∧ chain ≠ [] ∧
      spaceOf chain = text ∧
      ∀ {more rest}, (∀ identifier ∈ more, isIdentifier identifier = true) →
        endsChain rest = true →
        readChain [c] [] (cs ++ (behindDots more ++ rest)) = (more.reverse ++ chain, rest) := by
  obtain ⟨first, identifiers, hfirst, hidentifiers, htext, hspace⟩ := hdotted.exists_identifiers
  cases first with
  | nil => contradiction
  | cons c word =>
      rw [isIdentifier, Bool.and_eq_true, List.all_eq_true] at hfirst
      refine ⟨c, word ++ behindDots identifiers, identifiers.reverse ++ [c :: word], htext,
        hfirst.1, by simp, hspace, ?_⟩
      intro more rest hmore hend
      have hall : ∀ identifier ∈ identifiers ++ more, isIdentifier identifier = true :=
        List.forall_mem_append.mpr ⟨hidentifiers, hmore⟩
      have hchars : word ++ behindDots identifiers ++ (behindDots more ++ rest) =
          word ++ (behindDots (identifiers ++ more) ++ rest) := by
        simp [behindDots]
      rw [hchars, readChain_word hfirst.2, readChain_behindDots hall hend]
      simp

theorem readChain_ne_nil (current : List Char) (before : List (List Char)) (cs : List Char) :
    (readChain current before cs).1 ≠ [] := by
  fun_induction readChain current before cs <;> simp_all

theorem isIdentifier_concat {word : List Char} {c : Char} (hword : isIdentifier word = true)
    (hc : inWord c = true) : isIdentifier (word ++ [c]) = true := by
  cases word with
  | nil => contradiction
  | cons d word =>
      rw [isIdentifier, Bool.and_eq_true] at hword
      rw [List.cons_append, isIdentifier, hword.1, List.all_append, hword.2]
      simp [hc]

theorem isIdentifier_readChain {cs : List Char} (hcurrent : isIdentifier current.reverse = true)
    (hbefore : ∀ identifier ∈ before, isIdentifier identifier = true) :
    ∀ identifier ∈ (readChain current before cs).1, isIdentifier identifier = true := by
  have hall : ∀ identifier ∈ current.reverse :: before, isIdentifier identifier = true :=
    List.forall_mem_cons.mpr ⟨hcurrent, hbefore⟩
  fun_induction readChain current before cs with
  | case1 current before => exact hall
  | case2 current before c rest hword ih =>
      rw [List.reverse_cons] at ih
      have hlonger := isIdentifier_concat hcurrent hword
      exact ih hlonger hbefore (List.forall_mem_cons.mpr ⟨hlonger, hbefore⟩)
  | case3 current before hword => exact hall
  | case4 current before d after hstart hdot ih =>
      have hfirst : isIdentifier [d].reverse = true := by
        simp [isIdentifier, hstart]
      exact ih hfirst hall (List.forall_mem_cons.mpr ⟨hfirst, hall⟩)
  | case5 current before d after hstart hdot => exact hall
  | case6 current before c rest hword hdot => exact hall

/-! ## The spaces that are mentioned -/

theorem dotted_of_readMention? {cs behind : List Char} {mention : Mention}
    (hread : readMention? cs = some (mention, behind)) : Dotted mention.space := by
  cases cs with
  | nil => contradiction
  | cons c cs =>
      rw [readMention?] at hread
      split at hread
      next hstart =>
        have hfirst : isIdentifier [c].reverse = true := by
          simp [isIdentifier, hstart]
        have hchain : ∀ identifier ∈ (readChain [c] [] cs).1, isIdentifier identifier = true :=
          isIdentifier_readChain hfirst (List.forall_mem_nil _)
        simp only at hread
        split at hread
        next =>
          simp only [Option.some.injEq, Prod.mk.injEq] at hread
          obtain ⟨rfl, -⟩ := hread
          exact dotted_spaceOf (readChain_ne_nil _ _ _) hchain
        next =>
          split at hread
          next last space spaces hlast =>
            simp only [Option.some.injEq, Prod.mk.injEq] at hread
            obtain ⟨rfl, -⟩ := hread
            rw [hlast] at hchain
            exact dotted_spaceOf (List.cons_ne_nil _ _) (List.forall_mem_cons.mp hchain).2
          next => contradiction
      next => contradiction

theorem dotted_of_mem_mentions {text : String} {mention : Mention}
    (hmention : mention ∈ mentions text) : Dotted mention.space := by
  obtain ⟨_, _, -, hread⟩ := exists_readMention?_of_mem hmention
  exact dotted_of_readMention? hread

end Reference
end ApiStubs
