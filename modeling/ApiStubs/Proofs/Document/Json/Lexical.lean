import ApiStubs.Document.Json.Grammar
import Mathlib.Data.List.Basic

/-!
# Numbers and texts in JSON

The readers of numbers and texts read exactly what the grammar spells.  A number ends only
before a character that cannot go on with it, so what follows has to be looked at; a text
ends at its quote.
-/

namespace ApiStubs
namespace Document
namespace Json

open Text (UnitText)

/-- The characters do not begin with one of a kind. -/
def Stops (kind : Char → Bool) (rest : List Char) : Prop :=
  ∀ c ∈ rest.head?, kind c = false

theorem stops_cons {kind : Char → Bool} {c : Char} {rest : List Char} (hc : kind c = false) :
    Stops kind (c :: rest) := by
  intro first hfirst
  rw [List.head?_cons, Option.mem_some_iff] at hfirst
  rw [← hfirst]
  exact hc

theorem dropWhile_of_stops {kind : Char → Bool} {rest : List Char} (hrest : Stops kind rest) :
    rest.dropWhile kind = rest := by
  cases rest with
  | nil => rfl
  | cons c rest => rw [List.dropWhile_cons_of_neg (by simpa using hrest c rfl)]

theorem dropWhile_append_of_stops {kind : Char → Bool} {cs rest : List Char}
    (hcs : ∀ c ∈ cs, kind c = true) (hrest : Stops kind rest) :
    (cs ++ rest).dropWhile kind = rest := by
  rw [List.dropWhile_append_of_pos hcs, dropWhile_of_stops hrest]

/-- What is skipped, and that nothing more could be. -/
theorem exists_append_dropWhile (kind : Char → Bool) (cs : List Char) :
    ∃ skipped, (∀ c ∈ skipped, kind c = true) ∧ cs = skipped ++ cs.dropWhile kind :=
  ⟨cs.takeWhile kind, List.all_eq_true.mp List.all_takeWhile,
    List.takeWhile_append_dropWhile.symm⟩

/-! ## Numbers -/

variable {cs rest : List Char}

theorem IsDigits.head_append (hdigits : IsDigits cs) {c : Char} {more : List Char}
    (hhead : cs ++ rest = c :: more) : Text.isDigit c = true := by
  obtain ⟨hne, hall⟩ := hdigits
  cases cs with
  | nil => contradiction
  | cons first tail =>
      rw [← (List.cons.inj hhead).1]
      exact hall first List.mem_cons_self

theorem IsWhole.head_append (hwhole : IsWhole cs) {c : Char} {more : List Char}
    (hhead : cs ++ rest = c :: more) : Text.isDigit c = true := by
  cases hwhole with
  | zero =>
      rw [← (List.cons.inj hhead).1]
      rfl
  | digits hfirst hdigits => exact hdigits.head_append hhead

theorem skipDigits?_append (hdigits : IsDigits cs) (hrest : Stops Text.isDigit rest) :
    skipDigits? (cs ++ rest) = some rest := by
  obtain ⟨hne, hall⟩ := hdigits
  cases cs with
  | nil => contradiction
  | cons first more =>
      rw [List.cons_append, skipDigits?, if_pos (hall first List.mem_cons_self)]
      rw [dropWhile_append_of_stops (fun c hc => hall c (List.mem_cons_of_mem first hc)) hrest]

theorem exists_digits_of_skipDigits? (hskip : skipDigits? cs = some rest) :
    ∃ digits, IsDigits digits ∧ cs = digits ++ rest := by
  cases cs with
  | nil => contradiction
  | cons first more =>
      rw [skipDigits?] at hskip
      split at hskip
      next hfirst =>
        obtain ⟨digits, hdigits, hmore⟩ := exists_append_dropWhile Text.isDigit more
        rw [Option.some.injEq] at hskip
        rw [hskip] at hmore
        refine ⟨first :: digits, ⟨List.cons_ne_nil _ _, ?_⟩, by rw [hmore, List.cons_append]⟩
        intro c hc
        rcases List.mem_cons.mp hc with rfl | hc
        · exact hfirst
        · exact hdigits c hc
      next => contradiction

theorem skipWhole?_append (hwhole : IsWhole cs) (hrest : Stops Text.isDigit rest) :
    skipWhole? (cs ++ rest) = some rest := by
  cases hwhole with
  | zero => rfl
  | digits hfirst hdigits =>
      rw [← skipDigits?_append hdigits hrest, List.cons_append, skipWhole?]
      intro more heq
      exact hfirst (List.cons.inj heq).1

theorem exists_whole_of_skipWhole? (hskip : skipWhole? cs = some rest) :
    ∃ whole, IsWhole whole ∧ cs = whole ++ rest := by
  unfold skipWhole? at hskip
  split at hskip
  next more =>
    cases hskip
    exact ⟨['0'], .zero, rfl⟩
  next hzero =>
    obtain ⟨digits, hdigits, rfl⟩ := exists_digits_of_skipDigits? hskip
    cases digits with
    | nil => exact absurd rfl hdigits.1
    | cons first more =>
        refine ⟨first :: more, .digits ?_ hdigits, rfl⟩
        rintro rfl
        exact hzero (more ++ rest) rfl

theorem skipFraction?_append (hfraction : IsFraction cs) (hdigit : Stops Text.isDigit rest)
    (hpoint : Stops (· = '.') rest) : skipFraction? (cs ++ rest) = some rest := by
  cases hfraction with
  | absent =>
      rw [List.nil_append, skipFraction?]
      intro more heq
      subst heq
      simpa using hpoint '.' rfl
  | present hdigits => exact skipDigits?_append hdigits hdigit

theorem exists_fraction_of_skipFraction? (hskip : skipFraction? cs = some rest) :
    ∃ fraction, IsFraction fraction ∧ cs = fraction ++ rest := by
  unfold skipFraction? at hskip
  split at hskip
  next more =>
    obtain ⟨digits, hdigits, rfl⟩ := exists_digits_of_skipDigits? hskip
    exact ⟨_, .present hdigits, rfl⟩
  next =>
    cases hskip
    exact ⟨[], .absent, rfl⟩

/-- The mark of an exponent. -/
def isExponentMark (c : Char) : Bool :=
  c = 'e' || c = 'E'

theorem skipExponent?_append (hexponent : IsExponent cs) (hdigit : Stops Text.isDigit rest)
    (hmark : Stops isExponentMark rest) : skipExponent? (cs ++ rest) = some rest := by
  cases hexponent with
  | absent =>
      cases rest with
      | nil => rfl
      | cons c rest =>
          have hc : ¬(c = 'e' ∨ c = 'E') := by simpa [isExponentMark] using hmark c rfl
          unfold skipExponent?
          exact if_neg hc
  | present hmark hsign hdigits =>
      have hskip := skipDigits?_append hdigits hdigit
      unfold skipExponent?
      rw [List.cons_append, List.append_assoc]
      dsimp only
      rw [if_pos hmark]
      rcases hsign with rfl | rfl | rfl
      · rw [List.nil_append]
        split
        next heq => exact absurd (hdigits.head_append heq) (by decide)
        next heq => exact absurd (hdigits.head_append heq) (by decide)
        next => exact hskip
      · exact hskip
      · exact hskip

theorem exists_exponent_of_skipExponent? (hskip : skipExponent? cs = some rest) :
    ∃ exponent, IsExponent exponent ∧ cs = exponent ++ rest := by
  unfold skipExponent? at hskip
  split at hskip
  next mark more =>
    split at hskip
    next hmark =>
      split at hskip
      next digits =>
        obtain ⟨digits, hdigits, rfl⟩ := exists_digits_of_skipDigits? hskip
        exact ⟨_, .present hmark (.inr (.inl rfl)) hdigits, rfl⟩
      next digits =>
        obtain ⟨digits, hdigits, rfl⟩ := exists_digits_of_skipDigits? hskip
        exact ⟨_, .present hmark (.inr (.inr rfl)) hdigits, rfl⟩
      next =>
        obtain ⟨digits, hdigits, rfl⟩ := exists_digits_of_skipDigits? hskip
        exact ⟨_, .present hmark (.inl rfl) hdigits, rfl⟩
    next =>
      cases hskip
      exact ⟨[], .absent, rfl⟩
  next =>
    cases hskip
    exact ⟨[], .absent, rfl⟩

/-- A number could go on with the character. -/
def goesOn (c : Char) : Bool :=
  Text.isDigit c || c = '.' || isExponentMark c

theorem goesOn_eq_false_iff {c : Char} :
    goesOn c = false ↔ Text.isDigit c = false ∧ c ≠ '.' ∧ isExponentMark c = false := by
  simp [goesOn, and_assoc]

theorem stops_exponent (hexponent : IsExponent cs) {kind : Char → Bool}
    (hmark : kind 'e' = false ∧ kind 'E' = false) (hrest : Stops kind rest) :
    Stops kind (cs ++ rest) := by
  cases hexponent with
  | absent => exact hrest
  | present hmark' hsign hdigits =>
      apply stops_cons
      rcases hmark' with rfl | rfl
      · exact hmark.1
      · exact hmark.2

theorem stops_fraction (hfraction : IsFraction cs) {kind : Char → Bool}
    (hpoint : kind '.' = false) (hrest : Stops kind rest) : Stops kind (cs ++ rest) := by
  cases hfraction with
  | absent => exact hrest
  | present hdigits => exact stops_cons hpoint

theorem skipNumber?_append (hnumber : IsNumber cs) (hrest : Stops goesOn rest) :
    skipNumber? (cs ++ rest) = some rest := by
  obtain @⟨sign, whole, fraction, exponent, hsign, hwhole, hfraction, hexponent⟩ := hnumber
  have hdigit : Stops Text.isDigit rest := fun c hc => (goesOn_eq_false_iff.mp (hrest c hc)).1
  have hpoint : Stops (· = '.') rest := fun c hc =>
    decide_eq_false (goesOn_eq_false_iff.mp (hrest c hc)).2.1
  have hmark : Stops isExponentMark rest := fun c hc => (goesOn_eq_false_iff.mp (hrest c hc)).2.2
  have hdigit' : Stops Text.isDigit (exponent ++ rest) := stops_exponent hexponent (by decide) hdigit
  have hpoint' : Stops (· = '.') (exponent ++ rest) := stops_exponent hexponent (by decide) hpoint
  have hunsigned : skipWhole? (whole ++ (fraction ++ (exponent ++ rest))) >>= skipFraction? >>=
      skipExponent? = some rest := by
    rw [skipWhole?_append hwhole (stops_fraction hfraction (by decide) hdigit')]
    simp only [Option.bind_eq_bind, Option.bind_some, skipFraction?_append hfraction hdigit' hpoint',
      skipExponent?_append hexponent hdigit hmark]
  unfold skipNumber?
  simp only [List.append_assoc]
  rcases hsign with rfl | rfl
  · rw [List.nil_append]
    split
    next heq => exact absurd (hwhole.head_append heq) (by decide)
    next => exact hunsigned
  · exact hunsigned

theorem exists_number_of_skipNumber? (hskip : skipNumber? cs = some rest) :
    ∃ number, IsNumber number ∧ cs = number ++ rest := by
  have hunsigned : ∀ {sign unsigned : List Char}, (sign = [] ∨ sign = ['-']) →
      skipWhole? unsigned >>= skipFraction? >>= skipExponent? = some rest →
        ∃ number, IsNumber number ∧ sign ++ unsigned = number ++ rest := by
    intro sign unsigned hsign hskip
    obtain ⟨afterFraction, hskip, hskipExponent⟩ := Option.bind_eq_some_iff.mp hskip
    obtain ⟨afterWhole, hskipWhole, hskipFraction⟩ := Option.bind_eq_some_iff.mp hskip
    obtain ⟨whole, hwhole, rfl⟩ := exists_whole_of_skipWhole? hskipWhole
    obtain ⟨fraction, hfraction, rfl⟩ := exists_fraction_of_skipFraction? hskipFraction
    obtain ⟨exponent, hexponent, rfl⟩ := exists_exponent_of_skipExponent? hskipExponent
    exact ⟨_, .mk hsign hwhole hfraction hexponent, by simp only [List.append_assoc]⟩
  unfold skipNumber? at hskip
  dsimp only at hskip
  split at hskip
  next unsigned => exact hunsigned (.inr rfl) hskip
  next => exact hunsigned (.inl rfl) hskip

/-! ## Texts -/

/-- Puts units before those that are read. -/
def front (us : List UInt16) (read : List UInt16 × List Char) : List UInt16 × List Char :=
  (us ++ read.1, read.2)

theorem bind_eq_map_front (us : List UInt16) (read? : Option (List UInt16 × List Char)) :
    (read? >>= fun read => some (us ++ read.1, read.2)) = read?.map (front us) := by
  cases read? <;> rfl

theorem map_front_front (us more : List UInt16) (read? : Option (List UInt16 × List Char)) :
    (read?.map (front more)).map (front us) = read?.map (front (us ++ more)) := by
  cases read? with
  | none => rfl
  | some read => simp [front, List.append_assoc]

/-- What spells units is read as them, whatever follows. -/
theorem readUnits_append {us : List UInt16} (hunits : SpellsUnits cs us) (rest : List Char) :
    readUnits (cs ++ rest) = (readUnits rest).map (front us) := by
  induction hunits generalizing rest with
  | @plain c hprintable hquote hescape =>
      have hkept : ¬((decide (c.toNat < 0x20) || decide (c = '\\')) = true) := by
        simpa [hescape] using hprintable
      rw [List.singleton_append, readUnits.eq_5 _ _ hquote (fun _ _ _ _ _ heq => absurd heq hescape)
        (fun _ _ heq => absurd heq hescape), if_neg hkept]
      exact bind_eq_map_front _ _
  | @escape letter c hletter =>
      have hunit : letter ≠ 'u' := by
        rintro rfl
        contradiction
      rw [List.cons_append, List.singleton_append,
        readUnits.eq_4 _ _ (fun _ _ _ _ _ heq => absurd heq hunit), hletter]
      exact bind_eq_map_front _ _
  | @unit digits n hlength hdigits =>
      obtain ⟨a, b, c, d, rfl⟩ := List.length_eq_four.mp hlength
      simp only [List.cons_append, List.nil_append]
      rw [readUnits, hdigits]
      exact bind_eq_map_front [UInt16.ofNat n] _
  | nil => exact Option.map_id'.symm
  | append hfirst hrest ih ihs =>
      rw [List.append_assoc, ih, ihs, map_front_front]

theorem exists_units_of_readUnits {us : List UInt16} (hread : readUnits cs = some (us, rest)) :
    ∃ spelled, SpellsUnits spelled us ∧ cs = spelled ++ '"' :: rest := by
  fun_induction readUnits cs generalizing us with
  | case1 => contradiction
  | case2 after =>
      cases hread
      exact ⟨[], .nil, rfl⟩
  | case3 a b c d after ih =>
      obtain ⟨n, hn, hread⟩ := Option.bind_eq_some_iff.mp hread
      obtain ⟨⟨others, more⟩, hothers, hread⟩ := Option.bind_eq_some_iff.mp hread
      cases hread
      obtain ⟨spelled, hspelled, rfl⟩ := ih hothers
      exact ⟨_, .append (.unit (rfl : [a, b, c, d].length = 4) hn) hspelled, rfl⟩
  | case4 letter after _ ih =>
      obtain ⟨c, hletter, hread⟩ := Option.bind_eq_some_iff.mp hread
      obtain ⟨⟨others, more⟩, hothers, hread⟩ := Option.bind_eq_some_iff.mp hread
      cases hread
      obtain ⟨spelled, hspelled, rfl⟩ := ih hothers
      exact ⟨_, .append (.escape hletter) hspelled, rfl⟩
  | case5 => contradiction
  | case6 c after hquote _ _ hkept ih =>
      obtain ⟨⟨others, more⟩, hothers, hread⟩ := Option.bind_eq_some_iff.mp hread
      cases hread
      obtain ⟨spelled, hspelled, rfl⟩ := ih hothers
      rw [Bool.or_eq_true, decide_eq_true_eq, decide_eq_true_eq, not_or] at hkept
      exact ⟨_, .append (.plain (Nat.le_of_not_lt hkept.1) hquote hkept.2) hspelled, rfl⟩

theorem readText_append {content : UnitText} (htext : SpellsText cs content) (rest : List Char) :
    ∃ opened, cs ++ rest = '"' :: opened ∧ readText opened = some (content, rest) := by
  obtain @⟨spelled, us, hunits⟩ := htext
  refine ⟨spelled ++ '"' :: rest, by simp, ?_⟩
  rw [readText, readUnits_append hunits]
  simp [readUnits, front]

theorem exists_text_of_readText {content : UnitText} (hread : readText cs = some (content, rest)) :
    ∃ spelled, SpellsText spelled content ∧ '"' :: cs = spelled ++ rest := by
  obtain ⟨⟨us, after⟩, hunits, heq⟩ := Option.map_eq_some_iff.mp hread
  cases heq
  obtain ⟨spelled, hspelled, rfl⟩ := exists_units_of_readUnits hunits
  exact ⟨_, .mk hspelled, by simp⟩

end Json
end Document
end ApiStubs
