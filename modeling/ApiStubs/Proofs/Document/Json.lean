import ApiStubs.Proofs.Document.Json.Lexical
import ApiStubs.Proofs.Document.Shape
import ApiStubs.Proofs.Table

/-!
# Reading JSON

The reader accepts exactly the texts of the grammar and gives their value.  What is spelled
is read with twice its length as fuel, and whatever is read has been spelled: both by
induction, one over the grammar and one over the fuel.
-/

namespace ApiStubs
namespace Document
namespace Json

open Text (UnitText)

variable {cs rest : List Char} {fuel : Nat}

/-! ## White space -/

theorem skipSpace_append (hblank : IsBlank cs) (hrest : Stops isSpace rest) :
    skipSpace (cs ++ rest) = rest :=
  dropWhile_append_of_stops hblank hrest

theorem exists_blank_of_skipSpace (hskip : skipSpace cs = rest) :
    ∃ gap, IsBlank gap ∧ cs = gap ++ rest := by
  rw [← hskip]
  exact exists_append_dropWhile isSpace cs

/-- What can stand behind an element: the end of the text, or of what the element is part of. -/
def Ends (rest : List Char) : Prop :=
  ∀ c ∈ rest.head?, c = ',' ∨ c = ']' ∨ c = '}'

theorem Ends.stops (hends : Ends rest) {kind : Char → Bool}
    (hkind : kind ',' = false ∧ kind ']' = false ∧ kind '}' = false) : Stops kind rest := by
  intro c hc
  rcases hends c hc with rfl | rfl | rfl
  · exact hkind.1
  · exact hkind.2.1
  · exact hkind.2.2

theorem ends_cons {c : Char} (hc : c = ',' ∨ c = ']' ∨ c = '}') : Ends (c :: rest) := by
  intro first hfirst
  rw [List.head?_cons, Option.mem_some_iff] at hfirst
  rw [← hfirst]
  exact hc

/-- No number goes on with white space, so none runs into what follows an element. -/
theorem stops_goesOn_append {after : List Char} (hafter : IsBlank after) (hends : Ends rest) :
    Stops goesOn (after ++ rest) := by
  cases after with
  | nil => exact hends.stops (by decide)
  | cons c after =>
      apply stops_cons
      have hc := hafter c List.mem_cons_self
      simp only [isSpace, Bool.or_eq_true, decide_eq_true_eq] at hc
      rcases hc with ((rfl | rfl) | rfl) | rfl <;> decide

/-! ## First characters -/

theorem IsNumber.first (hnumber : IsNumber cs) :
    ∃ c more, cs = c :: more ∧ (c = '-' ∨ Text.isDigit c = true) := by
  obtain @⟨sign, whole, fraction, exponent, hsign, hwhole, hfraction, hexponent⟩ := hnumber
  rcases hsign with rfl | rfl
  · cases hcs : whole ++ (fraction ++ exponent) with
    | nil => cases hwhole <;> contradiction
    | cons c more => exact ⟨c, more, rfl, .inr (hwhole.head_append hcs)⟩
  · exact ⟨_, _, rfl, .inl rfl⟩

theorem not_special_of_number {c : Char} (hc : c = '-' ∨ Text.isDigit c = true) :
    isSpace c = false ∧ c ∉ [']', '{', '[', '"', 't', 'f', 'n'] := by
  refine ⟨?_, ?_⟩
  · rw [Bool.eq_false_iff]
    intro hspace
    simp only [isSpace, Bool.or_eq_true, decide_eq_true_eq] at hspace
    rcases hspace with ((rfl | rfl) | rfl) | rfl <;> revert hc <;> decide
  · intro hmem
    simp only [List.mem_cons, List.not_mem_nil, or_false] at hmem
    rcases hmem with rfl | rfl | rfl | rfl | rfl | rfl | rfl <;> revert hc <;> decide

theorem first_of_value {value : Value UnitText} (hspells : Spells cs (.value value)) :
    ∃ c more, cs = c :: more ∧ isSpace c = false ∧ c ≠ ']' := by
  cases hspells with
  | null | true | false | emptyArray | array | emptyTable | table =>
      exact ⟨_, _, rfl, by decide, by decide⟩
  | number hnumber =>
      obtain ⟨c, more, rfl, hc⟩ := hnumber.first
      obtain ⟨hspace, hspecial⟩ := not_special_of_number hc
      exact ⟨c, more, rfl, hspace, fun hclose => hspecial (by simp [hclose])⟩
  | text htext =>
      cases htext
      exact ⟨_, _, rfl, by decide, by decide⟩

theorem skipSpace_element {value : Value UnitText} (hspells : Spells cs (.element value)) :
    ∃ c more, skipSpace (cs ++ rest) = c :: more ∧ c ≠ ']' := by
  cases hspells with
  | element hbefore hvalue hafter =>
      obtain ⟨c, more, rfl, hspace, hclose⟩ := first_of_value hvalue
      simp only [List.append_assoc, List.cons_append]
      rw [skipSpace_append hbefore (stops_cons hspace)]
      exact ⟨c, _, rfl, hclose⟩

theorem skipSpace_elements {values : List (Value UnitText)} (hspells : Spells cs (.elements values))
    (rest : List Char) :
    ∃ c more, skipSpace (cs ++ rest) = c :: more ∧ c ≠ ']' := by
  cases hspells with
  | lastElement hvalue => exact skipSpace_element hvalue
  | nextElement hvalue hvalues =>
      rw [List.append_assoc]
      exact skipSpace_element hvalue

theorem skipSpace_member {name : UnitText} {value : Value UnitText}
    (hspells : Spells cs (.member name value)) :
    ∃ more, skipSpace (cs ++ rest) = '"' :: more := by
  cases hspells with
  | member hbefore hname hafter hvalue =>
      cases hname
      simp only [List.append_assoc, List.cons_append]
      rw [skipSpace_append hbefore (stops_cons (by decide))]
      exact ⟨_, rfl⟩

theorem skipSpace_members {entries : List (UnitText × Value UnitText)}
    (hspells : Spells cs (.members entries)) (rest : List Char) :
    ∃ more, skipSpace (cs ++ rest) = '"' :: more := by
  cases hspells with
  | lastMember hmember => exact skipSpace_member hmember
  | nextMember hmember hentries =>
      rw [List.append_assoc]
      exact skipSpace_member hmember

/-! ## What is spelled is read -/

/-- A member is read up to the characters behind the gap that follows it. -/
def ReadsMember (fuel : Nat) (cs : List Char) (name : UnitText) (value : Value UnitText)
    (rest : List Char) : Prop :=
  ∃ opened behindName valued behindValue, skipSpace cs = '"' :: opened ∧
    readText opened = some (name, behindName) ∧ skipSpace behindName = ':' :: valued ∧
    readValue fuel valued = some (value, behindValue) ∧ skipSpace behindValue = rest

/-- What the readers do with characters that spell a phrase. -/
def IsRead (cs : List Char) : Phrase → Prop
  | .value value => ∀ rest text fuel, Stops goesOn rest → skipSpace text = cs ++ rest →
      2 * cs.length ≤ fuel + 1 → readValue (fuel + 1) text = some (value, rest)
  | .element value => ∀ rest fuel, Ends rest → 2 * cs.length ≤ fuel →
      ∃ after, readValue fuel (cs ++ rest) = some (value, after) ∧ skipSpace after = rest
  | .elements values => ∀ rest fuel before, 2 * cs.length < fuel →
      readItems fuel before (cs ++ ']' :: rest) = some (.array (before.reverse ++ values), rest)
  | .member name value => ∀ rest fuel, Ends rest → 2 * cs.length ≤ fuel →
      ReadsMember fuel (cs ++ rest) name value rest
  | .members entries => ∀ rest fuel before, 2 * cs.length < fuel →
      readMembers fuel before (cs ++ '}' :: rest) = some (.table (Table.putAll before entries), rest)

theorem readValue_number {c : Char} {more : List Char} (hskip : skipSpace cs = c :: more)
    (hc : c = '-' ∨ Text.isDigit c = true) :
    readValue (fuel + 1) cs = (skipNumber? (c :: more)).map (fun rest => (.number, rest)) := by
  have hspecial := (not_special_of_number hc).2
  rw [readValue, hskip]
  split
  next heq => exact absurd (List.cons.inj heq).1 (fun h => hspecial (by simp [h]))
  next heq => exact absurd (List.cons.inj heq).1 (fun h => hspecial (by simp [h]))
  next heq => exact absurd (List.cons.inj heq).1 (fun h => hspecial (by simp [h]))
  next heq => exact absurd (List.cons.inj heq).1 (fun h => hspecial (by simp [h]))
  next heq => exact absurd (List.cons.inj heq).1 (fun h => hspecial (by simp [h]))
  next heq => exact absurd (List.cons.inj heq).1 (fun h => hspecial (by simp [h]))
  next => rfl

theorem readItems_comma {value : Value UnitText} {before : List (Value UnitText)}
    {after : List Char}
    (hread : readValue fuel cs = some (value, after)) (hskip : skipSpace after = ',' :: rest) :
    readItems (fuel + 1) before cs = readItems fuel (value :: before) rest := by
  simp only [readItems, hread, hskip]

theorem readItems_close {value : Value UnitText} {before : List (Value UnitText)}
    {after : List Char}
    (hread : readValue fuel cs = some (value, after)) (hskip : skipSpace after = ']' :: rest) :
    readItems (fuel + 1) before cs = some (.array (value :: before).reverse, rest) := by
  simp only [readItems, hread, hskip]

theorem readMembers_comma {name : UnitText} {value : Value UnitText}
    {before : List (UnitText × Value UnitText)}
    (hmember : ReadsMember fuel cs name value (',' :: rest)) :
    readMembers (fuel + 1) before cs = readMembers fuel (Table.put name value before) rest := by
  obtain ⟨opened, behindName, valued, after, hopened, hname, hvalued, hread, hskip⟩ := hmember
  simp only [readMembers, hopened, hname, hvalued, hread, hskip]

theorem readMembers_close {name : UnitText} {value : Value UnitText}
    {before : List (UnitText × Value UnitText)}
    (hmember : ReadsMember fuel cs name value ('}' :: rest)) :
    readMembers (fuel + 1) before cs = some (.table (Table.put name value before), rest) := by
  obtain ⟨opened, behindName, valued, after, hopened, hname, hvalued, hread, hskip⟩ := hmember
  simp only [readMembers, hopened, hname, hvalued, hread, hskip]

theorem isRead_of_spells {phrase : Phrase} (hspells : Spells cs phrase) : IsRead cs phrase := by
  -- A call that takes no character is followed by one that takes one, so twice the length is
  -- fuel enough for what is spelled.
  induction hspells with
  | null | true | false =>
      intro rest text fuel _ hskip _
      rw [readValue, hskip]
      rfl
  | number hnumber =>
      intro rest text fuel hrest hskip _
      obtain ⟨c, more, rfl, hc⟩ := hnumber.first
      rw [readValue_number hskip hc]
      exact congrArg (Option.map _) (skipNumber?_append hnumber hrest)
  | text htext =>
      intro rest text fuel _ hskip _
      obtain ⟨opened, hopened, hread⟩ := readText_append htext rest
      simp only [readValue, hskip, hopened, hread, Option.map_some]
  | emptyArray hgap =>
      intro rest text fuel _ hskip _
      rw [readValue, hskip]
      simp only [List.cons_append, List.append_assoc, List.nil_append,
        skipSpace_append hgap (stops_cons (by decide : isSpace ']' = false))]
  | array hitems ih =>
      intro rest text fuel _ hskip hfuel
      have hfuel' := hfuel
      simp only [List.length_cons, List.length_append, List.length_nil] at hfuel'
      obtain ⟨c, more, hfirst, hclose⟩ := skipSpace_elements hitems (']' :: rest)
      rw [readValue, hskip]
      simp only [List.cons_append, List.append_assoc, List.nil_append]
      rw [hfirst]
      split
      next heq => exact absurd (List.cons.inj heq).1 hclose
      next => rw [ih rest fuel [] (by omega), List.reverse_nil, List.nil_append]
  | emptyTable hgap =>
      intro rest text fuel _ hskip _
      rw [readValue, hskip]
      simp only [List.cons_append, List.append_assoc, List.nil_append,
        skipSpace_append hgap (stops_cons (by decide : isSpace '}' = false))]
  | table hentries ih =>
      intro rest text fuel _ hskip hfuel
      simp only [List.length_cons, List.length_append, List.length_nil] at hfuel
      obtain ⟨more, hfirst⟩ := skipSpace_members hentries ('}' :: rest)
      rw [readValue, hskip]
      simp only [List.cons_append, List.append_assoc, List.nil_append]
      rw [hfirst, Table.entries_ofList]
      exact ih rest fuel [] (by omega)
  | @element before cs after value hbefore hvalue hafter ih =>
      intro rest fuel hends hfuel
      obtain ⟨c, more, rfl, hspace, -⟩ := first_of_value hvalue
      simp only [List.length_append, List.length_cons] at hfuel
      obtain ⟨fuel, rfl⟩ : ∃ n, fuel = n + 1 := ⟨fuel - 1, by omega⟩
      refine ⟨after ++ rest, ?_, skipSpace_append hafter (hends.stops (by decide))⟩
      apply ih _ _ _ (stops_goesOn_append hafter hends)
      · simp only [List.append_assoc]
        exact skipSpace_append hbefore (stops_cons hspace)
      · rw [List.length_cons]
        omega
  | lastElement hvalue ih =>
      intro rest fuel before hfuel
      obtain ⟨fuel, rfl⟩ : ∃ n, fuel = n + 1 := ⟨fuel - 1, by omega⟩
      obtain ⟨after, hread, hskip⟩ := ih (']' :: rest) fuel (ends_cons (.inr (.inl rfl))) (by omega)
      rw [readItems_close hread hskip, List.reverse_cons]
  | @nextElement cs more value values hvalue hvalues ih ihs =>
      intro rest fuel before hfuel
      simp only [List.length_append, List.length_cons] at hfuel
      obtain ⟨fuel, rfl⟩ : ∃ n, fuel = n + 1 := ⟨fuel - 1, by omega⟩
      rw [List.append_assoc, List.cons_append]
      obtain ⟨after, hread, hskip⟩ :=
        ih (',' :: (more ++ ']' :: rest)) fuel (ends_cons (.inl rfl)) (by omega)
      rw [readItems_comma hread hskip, ihs rest fuel _ (by omega), List.reverse_cons,
        List.append_assoc, List.singleton_append]
  | member hbefore hname hafter hvalue ih =>
      intro rest fuel hends hfuel
      simp only [List.length_append, List.length_cons] at hfuel
      obtain ⟨behindValue, hread, hskip⟩ := ih rest fuel hends (by omega)
      simp only [List.append_assoc, List.cons_append]
      obtain ⟨opened, hopened, hnameRead⟩ := readText_append hname _
      refine ⟨opened, _, _, behindValue, ?_, hnameRead, ?_, hread, hskip⟩
      · rw [← hopened]
        apply skipSpace_append hbefore
        rw [hopened]
        exact stops_cons (by decide)
      · exact skipSpace_append hafter (stops_cons (by decide))
  | lastMember hmember ih =>
      intro rest fuel before hfuel
      obtain ⟨fuel, rfl⟩ : ∃ n, fuel = n + 1 := ⟨fuel - 1, by omega⟩
      exact readMembers_close (ih ('}' :: rest) fuel (ends_cons (.inr (.inr rfl))) (by omega))
  | @nextMember cs more name value entries hmember hentries ih ihs =>
      intro rest fuel before hfuel
      simp only [List.length_append, List.length_cons] at hfuel
      obtain ⟨fuel, rfl⟩ : ∃ n, fuel = n + 1 := ⟨fuel - 1, by omega⟩
      rw [List.append_assoc, List.cons_append]
      rw [readMembers_comma
        (ih (',' :: (more ++ '}' :: rest)) fuel (ends_cons (.inl rfl)) (by omega))]
      exact ihs rest fuel _ (by omega)

/-! ## What is read is spelled -/

/-- Whatever the readers give with some fuel, characters have spelled it. -/
structure ReadsSpelled (fuel : Nat) : Prop where
  value : ∀ {cs rest value}, readValue fuel cs = some (value, rest) →
    ∃ gap body, IsBlank gap ∧ Spells body (.value value) ∧ cs = gap ++ (body ++ rest)
  items : ∀ {before cs rest value}, readItems fuel before cs = some (value, rest) →
    ∃ body values, Spells body (.elements values) ∧ cs = body ++ ']' :: rest ∧
      value = .array (before.reverse ++ values)
  members : ∀ {before cs rest value}, readMembers fuel before cs = some (value, rest) →
    ∃ body entries, Spells body (.members entries) ∧ cs = body ++ '}' :: rest ∧
      value = .table (Table.putAll before entries)

variable {value : Value UnitText}

theorem value_of_readValue (hreads : ReadsSpelled fuel)
    (hread : readValue (fuel + 1) cs = some (value, rest)) :
    ∃ gap body, IsBlank gap ∧ Spells body (.value value) ∧ cs = gap ++ (body ++ rest) := by
  rw [readValue] at hread
  obtain ⟨gap, hgap, hcs⟩ := exists_blank_of_skipSpace (rfl : skipSpace cs = skipSpace cs)
  suffices hbody : ∃ body, Spells body (.value value) ∧ skipSpace cs = body ++ rest by
    obtain ⟨body, hbody, hskip⟩ := hbody
    rw [hskip] at hcs
    exact ⟨gap, body, hgap, hbody, hcs⟩
  split at hread
  next inner hfirst =>
    split at hread
    next hinner =>
      obtain ⟨between, hbetween, rfl⟩ := exists_blank_of_skipSpace hinner
      cases hread
      exact ⟨_, .emptyTable hbetween, by simp [hfirst]⟩
    next =>
      obtain ⟨body, entries, hentries, rfl, rfl⟩ := hreads.members hread
      rw [← Table.entries_ofList]
      exact ⟨_, .table hentries, by simp [hfirst]⟩
  next inner hfirst =>
    split at hread
    next hinner =>
      obtain ⟨between, hbetween, rfl⟩ := exists_blank_of_skipSpace hinner
      cases hread
      exact ⟨_, .emptyArray hbetween, by simp [hfirst]⟩
    next =>
      obtain ⟨body, values, hvalues, rfl, rfl⟩ := hreads.items hread
      exact ⟨_, .array hvalues, by simp [hfirst]⟩
  next opened hfirst =>
    obtain ⟨⟨content, after⟩, htext, heq⟩ := Option.map_eq_some_iff.mp hread
    cases heq
    obtain ⟨spelled, hspelled, hopened⟩ := exists_text_of_readText htext
    exact ⟨spelled, .text hspelled, hfirst.trans hopened⟩
  next hfirst =>
    cases hread
    exact ⟨_, .true, hfirst⟩
  next hfirst =>
    cases hread
    exact ⟨_, .false, hfirst⟩
  next hfirst =>
    cases hread
    exact ⟨_, .null, hfirst⟩
  next =>
    obtain ⟨after, hnumber, heq⟩ := Option.map_eq_some_iff.mp hread
    cases heq
    obtain ⟨number, hnumber, hfirst⟩ := exists_number_of_skipNumber? hnumber
    exact ⟨number, .number hnumber, hfirst⟩

theorem element_of_readValue (hreads : ReadsSpelled fuel) {after : List Char}
    (hread : readValue fuel cs = some (value, after)) (hskip : skipSpace after = rest) :
    ∃ body, Spells body (.element value) ∧ cs = body ++ rest := by
  obtain ⟨gap, body, hgap, hbody, rfl⟩ := hreads.value hread
  obtain ⟨behind, hbehind, rfl⟩ := exists_blank_of_skipSpace hskip
  exact ⟨_, .element hgap hbody hbehind, by simp⟩

theorem elements_of_readItems (hreads : ReadsSpelled fuel) {before : List (Value UnitText)}
    (hread : readItems (fuel + 1) before cs = some (value, rest)) :
    ∃ body values, Spells body (.elements values) ∧ cs = body ++ ']' :: rest ∧
      value = .array (before.reverse ++ values) := by
  rw [readItems] at hread
  split at hread
  next => contradiction
  next first after hfirst =>
    split at hread
    next more hskip =>
      obtain ⟨body, hbody, rfl⟩ := element_of_readValue hreads hfirst hskip
      obtain ⟨others, values, hothers, rfl, rfl⟩ := hreads.items hread
      exact ⟨_, _, .nextElement hbody hothers, by simp, by simp⟩
    next after hskip =>
      obtain ⟨body, hbody, rfl⟩ := element_of_readValue hreads hfirst hskip
      cases hread
      exact ⟨_, _, .lastElement hbody, rfl, by simp⟩
    next => contradiction

theorem members_of_readMembers (hreads : ReadsSpelled fuel)
    {before : List (UnitText × Value UnitText)}
    (hread : readMembers (fuel + 1) before cs = some (value, rest)) :
    ∃ body entries, Spells body (.members entries) ∧ cs = body ++ '}' :: rest ∧
      value = .table (Table.putAll before entries) := by
  rw [readMembers] at hread
  split at hread
  next opened hopened =>
    split at hread
    next => contradiction
    next name behindName hname =>
      split at hread
      next valued hvalued =>
        split at hread
        next => contradiction
        next first after hfirst =>
          obtain ⟨gap, hgap, rfl⟩ := exists_blank_of_skipSpace hopened
          obtain ⟨spelled, hspelled, hquoted⟩ := exists_text_of_readText hname
          obtain ⟨between, hbetween, rfl⟩ := exists_blank_of_skipSpace hvalued
          dsimp only at hread
          split at hread
          next more hskip =>
            obtain ⟨body, hbody, rfl⟩ := element_of_readValue hreads hfirst hskip
            obtain ⟨others, entries, hothers, rfl, rfl⟩ := hreads.members hread
            exact ⟨_, _, .nextMember (.member hgap hspelled hbetween hbody) hothers,
              by simp [hquoted], rfl⟩
          next after hskip =>
            obtain ⟨body, hbody, rfl⟩ := element_of_readValue hreads hfirst hskip
            cases hread
            exact ⟨_, _, .lastMember (.member hgap hspelled hbetween hbody),
              by simp [hquoted], rfl⟩
          next => contradiction
      next => contradiction
  next => contradiction

theorem readsSpelled (fuel : Nat) : ReadsSpelled fuel := by
  induction fuel with
  | zero =>
      constructor <;>
        · intros
          contradiction
  | succ fuel ih =>
      exact ⟨value_of_readValue ih, elements_of_readItems ih, members_of_readMembers ih⟩

/-- The reader accepts the documents of the grammar, each with its value. -/
theorem parse?_eq_some_iff {text : String} :
    parse? text = some value ↔ Denotes text value := by
  unfold parse? Denotes
  dsimp only
  constructor
  · intro hparse
    split at hparse
    next => contradiction
    next read rest hread =>
      split at hparse
      next hend =>
        cases hparse
        rw [List.isEmpty_iff] at hend
        obtain ⟨body, hbody, hcs⟩ := element_of_readValue (readsSpelled _) hread hend
        rw [hcs, List.append_nil]
        exact hbody
      next => contradiction
  · intro hspells
    obtain ⟨after, hread, hskip⟩ := isRead_of_spells hspells [] (2 * text.toList.length + 2)
      (by simp [Ends]) (by omega)
    rw [List.append_nil] at hread
    rw [hread]
    simp [hskip]

/-! ## No document writes a date or time -/

def Phrase.IsMomentFree : Phrase → Prop
  | .value value => value.holdsMoment = false
  | .element value => value.holdsMoment = false
  | .elements values => ∀ value ∈ values, value.holdsMoment = false
  | .member _ value => value.holdsMoment = false
  | .members entries => MomentFree entries

theorem isMomentFree_of_spells {phrase : Phrase} (hspells : Spells cs phrase) :
    phrase.IsMomentFree := by
  induction hspells with
  | null | true | false | number | text => rfl
  | emptyArray | emptyTable => rfl
  | array _ ih => exact Value.holdsMoment_array.mpr ih
  | table _ ih =>
      exact Value.holdsMoment_table.mpr (fun entry hentry => ih entry (Table.mem_of_mem_ofList hentry))
  | element _ _ _ ih => exact ih
  | lastElement _ ih => exact List.forall_mem_singleton.mpr ih
  | nextElement _ _ ih ihs => exact List.forall_mem_cons.mpr ⟨ih, ihs⟩
  | member _ _ _ _ ih => exact ih
  | lastMember _ ih => exact List.forall_mem_singleton.mpr ih
  | nextMember _ _ ih ihs => exact List.forall_mem_cons.mpr ⟨ih, ihs⟩

theorem holdsMoment_of_denotes {text : String} (hdenotes : Denotes text value) :
    value.holdsMoment = false :=
  isMomentFree_of_spells hdenotes

end Json
end Document
end ApiStubs
