import ApiStubs.Proofs.Reference.Agreement
import ApiStubs.Proofs.Reference.Dotted
import ApiStubs.Proofs.Reference.Scope

/-!
# Mentions between delimiters

A reading never goes past a character that is in no mention, so what stands before such
a character does not matter to what comes after it.  Behind it the identifiers of a space
are read as far as they go, and the last of them is given back if no name follows, so a
name is found there whether or not it looks like one more identifier.  A dot that ends a
sentence is left alone.
-/

namespace ApiStubs
namespace Reference

/-! ## Reading one mention -/

/-- The characters that a mention consists of. -/
def inMention (c : Char) : Bool :=
  inName c || c = '.'

/-- A mention may start behind the characters: they do not end with one of a mention. -/
def startsBehind (before : List Char) : Bool :=
  !before.getLast?.any inMention

/-- A mention may end before the characters: they do not go on with a name, not even
behind a dot. -/
def endsBefore : List Char → Bool
  | [] => true
  | c :: cs => !inName c && !(c = '.' && cs.head?.any inName)

section

variable {c : Char} {cs behind last name after : List Char} {chain : List (List Char)}

theorem readMention?_of_name (hstart : startsWord c = true)
    (hchain : readChain [c] [] cs = (chain, behind)) (hname : nameBehind? behind = some name) :
    readMention? (c :: cs) =
      some (⟨spaceOf chain, String.ofList name⟩, behind.drop (name.length + 1)) := by
  rw [readMention?, if_pos hstart, hchain]
  simp only [hname]

theorem readMention?_of_no_name (hstart : startsWord c = true)
    (hchain : readChain [c] [] cs = (last :: chain, behind)) (hne : chain ≠ [])
    (hname : nameBehind? behind = none) :
    readMention? (c :: cs) =
      some (⟨spaceOf chain, String.ofList (last ++ behind.takeWhile inName)⟩,
        behind.dropWhile inName) := by
  rw [readMention?, if_pos hstart, hchain]
  simp only [hname]
  cases chain with
  | nil => contradiction
  | cons space spaces => rfl

theorem takeWhile_name (hname : ∀ c ∈ name, inName c = true) (hafter : endsBefore after = true) :
    (name ++ after).takeWhile inName = name := by
  rw [List.takeWhile_append_of_pos hname]
  cases after with
  | nil => simp
  | cons c after =>
      have hstop : inName c = false := by
        simp only [endsBefore, Bool.and_eq_true, Bool.not_eq_true'] at hafter
        exact hafter.1
      simp [hstop]

theorem dropWhile_name (hname : ∀ c ∈ name, inName c = true) (hafter : endsBefore after = true) :
    (name ++ after).dropWhile inName = after := by
  have hsame : name ++ (name ++ after).dropWhile inName = name ++ after :=
    calc
      name ++ (name ++ after).dropWhile inName =
          (name ++ after).takeWhile inName ++ (name ++ after).dropWhile inName := by
        rw [takeWhile_name hname hafter]
      _ = name ++ after := List.takeWhile_append_dropWhile
  exact List.append_cancel_left hsame

theorem inName_of_inWord (hword : inWord c = true) : inName c = true := by
  rw [inName, hword, Bool.true_or]

theorem eq_star_of_inName (hname : inName c = true) (hword : inWord c = false) : c = '*' := by
  rw [inName, hword, Bool.false_or, decide_eq_true_eq] at hname
  exact hname

theorem inName_eq_false_iff : inName c = false ↔ inWord c = false ∧ c ≠ '*' := by
  rw [inName, Bool.or_eq_false_iff, decide_eq_false_iff_not]

theorem startsWord_of_not_inName (hother : inName c = false) : startsWord c = false := by
  rw [inName_eq_false_iff, inWord, Bool.or_eq_false_iff] at hother
  exact hother.1.1

/-- Where a mention may end, no identifier follows, and no name. -/
theorem endsChain_of_endsBefore (hafter : endsBefore after = true) :
    endsChain after = true ∧ nameBehind? after = none := by
  cases after with
  | nil => exact ⟨rfl, rfl⟩
  | cons c after =>
      simp only [endsBefore, Bool.and_eq_true, Bool.not_eq_true'] at hafter
      obtain ⟨hother, hdot⟩ := hafter
      have hword : inWord c = false := (inName_eq_false_iff.mp hother).1
      by_cases hc : c = '.'
      · subst hc
        cases after with
        | nil => exact ⟨rfl, rfl⟩
        | cons d after =>
            have hname : inName d = false := by simpa using hdot
            simp [endsChain, nameBehind?, hword, hname, startsWord_of_not_inName hname]
      · simp [endsChain, nameBehind?, hword, hc]

/-- The same holds behind the word characters that a name begins with. -/
theorem endsChain_behind_word (hname : ∀ c ∈ name, inName c = true)
    (hafter : endsBefore after = true) :
    endsChain (name.dropWhile inWord ++ after) = true ∧
      nameBehind? (name.dropWhile inWord ++ after) = none := by
  cases hstars : name.dropWhile inWord with
  | nil =>
      rw [List.nil_append]
      exact endsChain_of_endsBefore hafter
  | cons c stars =>
      have hword : inWord c = false := by
        simpa [hstars] using List.head?_dropWhile_not inWord name
      have hmem : c ∈ name := (List.dropWhile_sublist inWord).mem (by simp [hstars])
      rw [eq_star_of_inName (hname c hmem) hword]
      exact ⟨rfl, rfl⟩

/-- A space, a dot and a name are read as one mention where the name ends. -/
theorem readMention?_delimited {space : String} (hspace : Dotted space)
    (hname : ∀ c ∈ name, inName c = true) (hne : name ≠ []) (hafter : endsBefore after = true) :
    readMention? (space.toList ++ '.' :: (name ++ after)) =
      some (⟨space, String.ofList name⟩, after) := by
  obtain ⟨c, cs, chain, htext, hstart, hchain, hspaceOf, hread⟩ := hspace.exists_readChain
  by_cases hhead : name.head?.any startsWord = true
  · -- The chain takes the word that the name begins with for one more identifier.
    obtain ⟨hend, hnone⟩ := endsChain_behind_word hname hafter
    have hword : ∀ identifier ∈ [name.takeWhile inWord], isIdentifier identifier = true := by
      rw [List.forall_mem_singleton]
      exact isIdentifier_takeWhile hhead
    have hchars : space.toList ++ '.' :: (name ++ after) = c :: (cs ++
        (behindDots [name.takeWhile inWord] ++ (name.dropWhile inWord ++ after))) := by
      rw [htext]
      simp [behindDots, ← List.append_assoc, List.takeWhile_append_dropWhile]
    have hstars : ∀ c ∈ name.dropWhile inWord, inName c = true :=
      fun c hc => hname c ((List.dropWhile_sublist inWord).mem hc)
    have hwhole := hread hword hend
    rw [List.reverse_singleton, List.singleton_append] at hwhole
    rw [hchars, readMention?_of_no_name hstart hwhole hchain hnone, hspaceOf,
      takeWhile_name hstars hafter, dropWhile_name hstars hafter,
      List.takeWhile_append_dropWhile]
  · -- The chain ends before the dot, and the name follows it.
    have hend : endsChain ('.' :: (name ++ after)) = true := by
      cases name with
      | nil => exact absurd rfl hne
      | cons d name =>
          have hdot : inWord '.' = false := by decide
          simpa [endsChain, hdot] using hhead
    have hbehind : nameBehind? ('.' :: (name ++ after)) = some name := by
      rw [nameBehind?, takeWhile_name hname hafter]
      simp [hne]
    have hchars : space.toList ++ '.' :: (name ++ after) =
        c :: (cs ++ (behindDots [] ++ '.' :: (name ++ after))) := by
      rw [htext]
      rfl
    rw [hchars, readMention?_of_name hstart (hread (by simp) hend) hbehind]
    simp [hspaceOf]

end

/-! ## Reading on behind a delimiter -/

section

variable {c : Char} {cs before rest behind : List Char} {mention : Mention}

theorem inMention_eq_false_iff : inMention c = false ↔ inName c = false ∧ c ≠ '.' := by
  rw [inMention, Bool.or_eq_false_iff, decide_eq_false_iff_not]

/-- The characters from a certain one on are left when another one is taken. -/
theorem isSuffix_of_cons {d : Char} (hsuffix : c :: rest <:+ d :: cs) (hne : c ≠ d) :
    c :: rest <:+ cs := by
  rcases List.suffix_cons_iff.mp hsuffix with hwhole | hrest
  · rw [List.cons.injEq] at hwhole
    exact absurd hwhole.1 hne
  · exact hrest

theorem isSuffix_dropWhile (hother : inName c = false) (hsuffix : c :: rest <:+ cs) :
    c :: rest <:+ cs.dropWhile inName := by
  induction cs with
  | nil => simp at hsuffix
  | cons d cs ih =>
      cases hd : inName d with
      | false => rwa [List.dropWhile_cons_of_neg (by simp [hd])]
      | true =>
          rw [List.dropWhile_cons_of_pos hd]
          apply ih (isSuffix_of_cons hsuffix _)
          rintro rfl
          rw [hother] at hd
          contradiction

theorem isSuffix_readChain (hother : inMention c = false) {current : List Char}
    {chain : List (List Char)} (hsuffix : c :: rest <:+ cs) :
    c :: rest <:+ (readChain current chain cs).2 := by
  obtain ⟨hname, hdot⟩ := inMention_eq_false_iff.mp hother
  have hword : ∀ d, inWord d = true → c ≠ d := by
    rintro d hd rfl
    rw [inName_of_inWord hd] at hname
    contradiction
  fun_induction readChain current chain cs with
  | case1 current chain => exact hsuffix
  | case2 current chain d cs hd ih => exact ih (isSuffix_of_cons hsuffix (hword d hd))
  | case3 current chain hd => exact hsuffix
  | case4 current chain d after hstart hd ih =>
      exact ih (isSuffix_of_cons (isSuffix_of_cons hsuffix hdot)
        (hword d (inWord_of_startsWord hstart)))
  | case5 current chain d after hstart hd => exact hsuffix
  | case6 current chain d cs hd hnodot => exact hsuffix

theorem drop_length_takeWhile (cs : List Char) :
    cs.drop (cs.takeWhile inName).length = cs.dropWhile inName := by
  have hsplit : cs.takeWhile inName ++ cs.dropWhile inName = cs :=
    List.takeWhile_append_dropWhile
  calc
    cs.drop (cs.takeWhile inName).length =
        (cs.takeWhile inName ++ cs.dropWhile inName).drop (cs.takeWhile inName).length := by
      rw [hsplit]
    _ = cs.dropWhile inName := List.drop_left

/-- A mention does not go past a character that is in none. -/
theorem isSuffix_readMention? (hother : inMention c = false)
    (hread : readMention? cs = some (mention, behind)) (hsuffix : c :: rest <:+ cs) :
    c :: rest <:+ behind := by
  obtain ⟨hname, hdot⟩ := inMention_eq_false_iff.mp hother
  cases cs with
  | nil => contradiction
  | cons d cs =>
      rw [readMention?] at hread
      split at hread
      next hstart =>
        have hne : c ≠ d := by
          rintro rfl
          rw [inName_of_inWord (inWord_of_startsWord hstart)] at hname
          contradiction
        have hchain : c :: rest <:+ (readChain [d] [] cs).2 :=
          isSuffix_readChain hother (isSuffix_of_cons hsuffix hne)
        simp only at hread
        split at hread
        next name hfound =>
          simp only [Option.some.injEq, Prod.mk.injEq] at hread
          obtain ⟨-, rfl⟩ := hread
          unfold nameBehind? at hfound
          split at hfound
          next after hbehind =>
            rw [hbehind] at hchain ⊢
            split at hfound
            next => contradiction
            next =>
              obtain rfl := Option.some.inj hfound
              rw [List.drop_succ_cons, drop_length_takeWhile]
              exact isSuffix_dropWhile hname (isSuffix_of_cons hchain hdot)
          next => contradiction
        next =>
          split at hread
          next =>
            simp only [Option.some.injEq, Prod.mk.injEq] at hread
            obtain ⟨-, rfl⟩ := hread
            exact isSuffix_dropWhile hname hchain
          next => contradiction
      next => contradiction

theorem exists_mentionsFrom_append {skip : Nat} (hother : inMention c = false)
    (hskip : skip ≤ cs.length) :
    ∃ found, mentionsFrom skip (cs ++ c :: rest) = found ++ mentionsFrom 0 rest := by
  induction cs generalizing skip with
  | nil =>
      have hnone : readMention? (c :: rest) = none := by
        rw [readMention?, if_neg]
        simp [startsWord_of_not_inName (inMention_eq_false_iff.mp hother).1]
      obtain rfl : skip = 0 := Nat.le_zero.mp hskip
      refine ⟨[], ?_⟩
      rw [List.nil_append, mentionsFrom, hnone, List.nil_append]
  | cons d cs ih =>
      cases skip with
      | succ skip => exact ih (Nat.le_of_succ_le_succ hskip)
      | zero =>
          rw [List.cons_append, mentionsFrom]
          split
          next => exact ih (Nat.zero_le _)
          next mention behind hread =>
            have hlength : (c :: rest).length ≤ behind.length :=
              (isSuffix_readMention? hother hread (List.suffix_append (d :: cs) _)).length_le
            have hskip : (cs ++ c :: rest).length - behind.length ≤ cs.length := by
              rw [List.length_append]
              omega
            obtain ⟨found, hfound⟩ := ih hskip
            exact ⟨mention :: found, by rw [hfound, List.cons_append]⟩

/-- What stands before a place where a mention may start does not matter to what follows. -/
theorem exists_mentionsFrom_behind (hbefore : startsBehind before = true) (rest : List Char) :
    ∃ found, mentionsFrom 0 (before ++ rest) = found ++ mentionsFrom 0 rest := by
  rcases List.eq_nil_or_concat before with rfl | ⟨cs, c, rfl⟩
  · exact ⟨[], rfl⟩
  · have hother : inMention c = false := by
      simpa [startsBehind] using hbefore
    rw [List.concat_append]
    exact exists_mentionsFrom_append hother (Nat.zero_le _)

/-- A delimited mention is read. -/
theorem mem_mentions_of_delimited {text space : String} {name after : List Char}
    (hbefore : startsBehind before = true) (hspace : Dotted space)
    (hname : ∀ c ∈ name, inName c = true) (hne : name ≠ []) (hafter : endsBefore after = true)
    (htext : text.toList = before ++ (space.toList ++ '.' :: (name ++ after))) :
    ⟨space, String.ofList name⟩ ∈ mentions text := by
  have hread := readMention?_delimited hspace hname hne hafter
  obtain ⟨found, hfound⟩ := exists_mentionsFrom_behind hbefore
    (space.toList ++ '.' :: (name ++ after))
  rw [mentions, htext, hfound]
  apply List.mem_append_right
  cases hchars : space.toList ++ '.' :: (name ++ after) with
  | nil => simp at hchars
  | cons c cs =>
      rw [hchars] at hread
      rw [mentionsFrom, hread]
      exact List.mem_cons_self

end

/-! ## What a scan finds -/

section

variable {catalog : Catalog} {text before space short after : String}

theorem exists_constant_of_mem_scan {fullName : String} (hscanned : fullName ∈ scan catalog text) :
    ∃ constant ∈ catalog.constants, constant.fullName = fullName := by
  obtain ⟨mention, -, hnamed⟩ := List.mem_flatMap.mp hscanned
  obtain ⟨name, hname, rfl⟩ := mem_namedBy hnamed
  obtain ⟨constant, hconstant, hspace, hshort⟩ := Catalog.registered_iff_mem_namesOf.mpr hname
  exact ⟨constant, hconstant, by rw [Constant.fullName, hspace, hshort]⟩

theorem star_not_mem_of_inWord {cs : List Char} (hcs : ∀ c ∈ cs, inWord c = true) : '*' ∉ cs := by
  intro hmem
  have hstar : inWord '*' = false := by decide
  rw [hcs _ hmem] at hstar
  contradiction

theorem namedBy_of_registered (hshort : ∀ c ∈ short.toList, inWord c = true)
    (hregistered : catalog.Registered space short) :
    namedBy catalog ⟨space, short⟩ = [qualify space short] := by
  rw [namedBy_eq, if_neg (star_not_mem_of_inWord hshort),
    if_pos (Catalog.registered_iff_mem_namesOf.mp hregistered)]

theorem namedBy_star (hshort : ∀ c ∈ short.toList, inWord c = true) :
    namedBy catalog ⟨space, short ++ "*"⟩ =
      ((catalog.constantsOf space).filter
        (fun constant => Text.startsWith constant.name short)).map Constant.fullName := by
  have hkept : (short ++ "*").toList.filter (· != '*') = short.toList := by
    rw [String.toList_append, List.filter_append, List.filter_eq_self.mpr]
    · simp
    · intro c hc
      rw [bne_iff_ne]
      rintro rfl
      exact star_not_mem_of_inWord hshort hc
  have hstar : '*' ∈ (short ++ "*").toList := by simp
  unfold namedBy
  simp only [hstar, if_true, hkept, String.ofList_toList]

/-- A full name with a word behind its last dot is registered under that word. -/
theorem registered_of_fullName (hproper : catalog.ProperNames)
    (hshort : ∀ c ∈ short.toList, inWord c = true) {constant : Constant}
    (hconstant : constant ∈ catalog.constants) (hname : constant.fullName = qualify space short) :
    catalog.Registered space short ∧ short ≠ "" := by
  have hdot : '.' ∉ short.toList := by
    intro hmem
    have hnone : inWord '.' = false := by decide
    rw [hshort _ hmem] at hnone
    contradiction
  have hsame : (⟨constant.space, constant.name⟩ : QualifiedName) = ⟨space, short⟩ :=
    QualifiedName.eq_of_text (hproper constant hconstant).noDot hdot hname
  rw [QualifiedName.mk.injEq] at hsame
  refine ⟨⟨constant, hconstant, hsame⟩, ?_⟩
  rw [← hsame.2]
  exact (hproper constant hconstant).name_ne

/-- What a delimited mention stands for is found, in one piece. -/
theorem namedBy_isInfix_scan {name : String} (hbefore : startsBehind before.toList = true)
    (hspace : Dotted space) (hname : ∀ c ∈ name.toList, inName c = true) (hne : name ≠ "")
    (hafter : endsBefore after.toList = true)
    (htext : text = before ++ qualify space name ++ after) :
    namedBy catalog ⟨space, name⟩ <:+: scan catalog text := by
  have hchars : text.toList =
      before.toList ++ (space.toList ++ '.' :: (name.toList ++ after.toList)) := by
    simp [htext, qualify, QualifiedName.text]
  have hmention := mem_mentions_of_delimited hbefore hspace hname (by simpa using hne) hafter hchars
  rw [String.ofList_toList] at hmention
  obtain ⟨earlier, later, hmentions⟩ := List.append_of_mem hmention
  rw [scan, hmentions, List.flatMap_append, List.flatMap_cons]
  exact ⟨_, _, List.append_assoc _ _ _⟩

end

/-- Every name that a scan finds is that of a registered constant.  Behind a text that does not
end in a mention, and before one that does not go on with it, the full name of a constant is
found, and a beginning with a star stands for all constants of the space that have it, one
after the other as they were registered. -/
theorem scan_of_delimited (elements : List (String × String)) (text : String) :
    let catalog := Catalog.ofElements elements
    (∀ fullName ∈ scan catalog text,
      ∃ constant ∈ catalog.constants, constant.fullName = fullName) ∧
    ∀ before space short after : String, startsBehind before.toList = true → Dotted space →
      (∀ c ∈ short.toList, inWord c = true) → endsBefore after.toList = true →
      ((∃ constant ∈ catalog.constants, constant.fullName = qualify space short) →
        text = before ++ qualify space short ++ after → qualify space short ∈ scan catalog text) ∧
      (text = before ++ qualify space (short ++ "*") ++ after →
        ((catalog.constantsOf space).filter
          (fun constant => Text.startsWith constant.name short)).map Constant.fullName <:+:
            scan catalog text) := by
  intro catalog
  have hproper : catalog.ProperNames := (Registry.wellFormed_ofElements elements).properNames
  refine ⟨fun fullName => exists_constant_of_mem_scan, ?_⟩
  intro before space short after hbefore hspace hshort hafter
  have hname : ∀ c ∈ short.toList, inName c = true := fun c hc => inName_of_inWord (hshort c hc)
  constructor
  · rintro ⟨constant, hconstant, hfull⟩ htext
    obtain ⟨hregistered, hne⟩ := registered_of_fullName hproper hshort hconstant hfull
    apply (namedBy_isInfix_scan hbefore hspace hname hne hafter htext).subset
    rw [namedBy_of_registered hshort hregistered]
    exact List.mem_singleton_self _
  · intro htext
    have hstar : ∀ c ∈ (short ++ "*").toList, inName c = true := by
      rw [String.toList_append, List.forall_mem_append]
      exact ⟨hname, List.all_eq_true.mp (by decide)⟩
    have hfound : namedBy catalog ⟨space, short ++ "*"⟩ <:+: scan catalog text :=
      namedBy_isInfix_scan hbefore hspace hstar (by simp) hafter htext
    rwa [namedBy_star hshort] at hfound

/-- A name with a digit at its start before the end of a sentence, and a star between tags. -/
theorem scan_of_delimited_in_markup :
    let elements := [("gui.PROP_X", ""), ("foo.bar.2D", ""), ("gui.KEY", ""), ("gui.PROP_Y", "")]
    let text := "Use <b>gui.PROP_*</b> (or.foo).bar, or foo.bar.2D."
    let catalog := Catalog.ofElements elements
    "foo.bar.2D" ∈ scan catalog text ∧
      ["gui.PROP_X", "gui.PROP_Y"] <:+: scan catalog text := by
  intro elements text catalog
  obtain ⟨-, hdelimited⟩ := scan_of_delimited elements text
  constructor
  · have hname := (hdelimited "Use <b>gui.PROP_*</b> (or.foo).bar, or " "foo.bar" "2D" "."
      (by decide) (by decide) (List.all_eq_true.mp (by decide)) (by decide)).1
    exact hname (by decide +kernel) (by decide +kernel)
  · have hstar := (hdelimited "Use <b>" "gui" "PROP_" "</b> (or.foo).bar, or foo.bar.2D."
      (by decide) (by decide) (List.all_eq_true.mp (by decide)) (by decide)).2 (by decide +kernel)
    have hlisted : ((catalog.constantsOf "gui").filter
        (fun constant => Text.startsWith constant.name "PROP_")).map Constant.fullName =
        ["gui.PROP_X", "gui.PROP_Y"] := by decide +kernel
    rwa [hlisted] at hstar

end Reference
end ApiStubs
