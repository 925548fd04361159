import ApiStubs.Proofs.Text.UnitOrder

/-!
# Texts as code units

The order of texts is the lexicographic order of their UTF-16 code units.  What these
units are is said here without the function that computes them.  Since a text can be read
back from its units, the order is a total one, and a list of texts has a single sorted
arrangement, whatever the order it was given in.
-/

namespace ApiStubs
namespace Text

/-- A character up to U+FFFF is one unit.  A higher one is a high and a low surrogate,
which share the bits of its distance from U+10000. -/
inductive Encodes : List Nat → List Char → Prop where
  | nil : Encodes [] []
  | unit {c : Char} {us : List Nat} {cs : List Char} (hbasic : c.toNat < 0x10000)
      (hrest : Encodes us cs) : Encodes (c.toNat :: us) (c :: cs)
  | pair {c : Char} {high low : Nat} {us : List Nat} {cs : List Char}
      (hhigh : 0xD800 ≤ high ∧ high < 0xDC00) (hlow : 0xDC00 ≤ low ∧ low < 0xE000)
      (hcode : c.toNat = 0x10000 + (high - 0xD800) * 0x400 + (low - 0xDC00))
      (hrest : Encodes us cs) : Encodes (high :: low :: us) (c :: cs)

theorem encodes_flatMap (cs : List Char) : Encodes (cs.flatMap unitsOfChar) cs := by
  induction cs with
  | nil => exact .nil
  | cons c cs ih =>
      rw [List.flatMap_cons, unitsOfChar]
      by_cases hbasic : c.toNat < 0x10000
      · rw [if_pos hbasic]
        exact .unit hbasic ih
      · have htop := toNat_lt_top c
        rw [if_neg hbasic]
        exact .pair (by omega) (by omega) (by omega) ih

theorem Encodes.eq_flatMap {us : List Nat} {cs : List Char} (hencodes : Encodes us cs) :
    us = cs.flatMap unitsOfChar := by
  induction hencodes with
  | nil => rfl
  | unit hbasic _ ih =>
      rw [List.flatMap_cons, unitsOfChar, if_pos hbasic, ← ih]
      rfl
  | @pair c high low us cs hhigh hlow hcode _ ih =>
      have hastral : ¬ c.toNat < 0x10000 := by omega
      have hfirst : 0xD800 + (c.toNat - 0x10000) / 0x400 = high := by omega
      have hsecond : 0xDC00 + (c.toNat - 0x10000) % 0x400 = low := by omega
      rw [List.flatMap_cons, unitsOfChar, if_neg hastral, hfirst, hsecond, ← ih]
      rfl

theorem encodes_units_iff {us : List Nat} {text : String} :
    Encodes us text.toList ↔ us = units text := by
  constructor
  · exact Encodes.eq_flatMap
  · rintro rfl
    exact encodes_flatMap text.toList

/-! ## The order -/

theorem compareUnitLists_eq_lt_iff (us vs : List Nat) :
    compareUnitLists us vs = .lt ↔ us < vs := by
  induction us generalizing vs with
  | nil => cases vs <;> simp [compareUnitLists]
  | cons u us ih =>
      cases vs with
      | nil => simp [compareUnitLists]
      | cons v vs =>
          rw [compareUnitLists, List.cons_lt_cons_iff, ← ih]
          rcases Nat.lt_trichotomy u v with hlt | rfl | hgt
          · simp [hlt]
          · simp
          · simp [Nat.lt_asymm hgt, hgt, Nat.ne_of_gt hgt]

/-! ## The sorted arrangement -/

/-- Sorting gives the one arrangement of the texts in which none stands before a smaller
one. -/
theorem eq_sortByUnits_iff {sorted texts : List String} :
    sorted = sortByUnits texts ↔
      sorted.Perm texts ∧ sorted.Pairwise (fun a b => compareUnits a b ≠ .gt) := by
  have hordered : (sortByUnits texts).Pairwise (fun a b => compareUnits a b ≠ .gt) :=
    (mergeSort_key_sorted id texts).imp unitsLE_iff.mp
  constructor
  · rintro rfl
    exact ⟨sortByUnits_perm texts, hordered⟩
  · rintro ⟨hperm, hsorted⟩
    refine List.Perm.eq_of_pairwise ?_ hsorted hordered (hperm.trans (sortByUnits_perm texts).symm)
    intro a b _ _ hab hba
    exact unitsLE_antisymm (unitsLE_iff.mpr hab) (unitsLE_iff.mpr hba)

theorem sortByUnits_eq_of_perm {left right : List String} (hperm : left.Perm right) :
    sortByUnits left = sortByUnits right := by
  rw [eq_sortByUnits_iff]
  obtain ⟨hsame, hsorted⟩ := eq_sortByUnits_iff.mp (rfl : sortByUnits left = sortByUnits left)
  exact ⟨hsame.trans hperm, hsorted⟩

/-- Texts are in the lexicographic order of their code units, which is a total order, and
sorting by it depends only on what is sorted. -/
theorem order_of_code_units :
    (∀ a b, compareUnits a b = .eq ↔ a = b) ∧
      (∀ a b, compareUnits b a = (compareUnits a b).swap) ∧
      (∀ a b c, compareUnits a b = .lt → compareUnits b c = .lt → compareUnits a c = .lt) ∧
      (∀ a b c, compareUnits a b ≠ .gt → compareUnits b c ≠ .gt → compareUnits a c ≠ .gt) ∧
      (∀ text : String, ∃! us, Encodes us text.toList) ∧
      (∀ (a b : String) (us vs : List Nat), Encodes us a.toList → Encodes vs b.toList →
        (compareUnits a b = .lt ↔ us < vs)) ∧
      (∀ texts sorted, sorted = sortByUnits texts ↔
        sorted.Perm texts ∧ sorted.Pairwise (fun a b => compareUnits a b ≠ .gt)) ∧
      ∀ left right, left.Perm right → sortByUnits left = sortByUnits right := by
  refine ⟨fun _ _ => compareUnits_eq_iff, compareUnits_swap,
    fun _ _ _ => compareUnits_lt_trans, ?_, ?_, ?_, fun _ _ => eq_sortByUnits_iff,
    fun _ _ => sortByUnits_eq_of_perm⟩
  · intro a b c hab hbc
    exact unitsLE_iff.mp (unitsLE_trans a b c (unitsLE_iff.mpr hab) (unitsLE_iff.mpr hbc))
  · intro text
    exact ⟨units text, encodes_units_iff.mpr rfl, fun _ hus => encodes_units_iff.mp hus⟩
  · intro a b us vs hus hvs
    rw [encodes_units_iff.mp hus, encodes_units_iff.mp hvs]
    exact compareUnitLists_eq_lt_iff _ _

/-- A character above U+FFFF comes before U+E000, although its code point is greater, in
whatever order the two are given. -/
theorem order_of_code_units_above_the_basic_plane :
    Encodes [0xD800, 0xDC00] "𐀀".toList ∧ "\uE000" < "𐀀" ∧ compareUnits "𐀀" "\uE000" = .lt ∧
      sortByUnits ["\uE000", "𐀀"] = ["𐀀", "\uE000"] ∧
      sortByUnits ["𐀀", "\uE000"] = ["𐀀", "\uE000"] := by
  obtain ⟨-, -, -, -, -, hlexicographic, hsorted, hsame⟩ := order_of_code_units
  have hhigh : Encodes [0xD800, 0xDC00] "𐀀".toList :=
    .pair (by decide) (by decide) (by decide) .nil
  have hbasic : Encodes [0xE000] "\uE000".toList :=
    Encodes.unit (c := '\uE000') (by decide) .nil
  have horder : compareUnits "𐀀" "\uE000" = .lt :=
    (hlexicographic _ _ _ _ hhigh hbasic).mpr (by decide)
  have hgiven : ["𐀀", "\uE000"] = sortByUnits ["𐀀", "\uE000"] := by
    apply (hsorted _ _).mpr
    simp [horder]
  refine ⟨hhigh, by decide, horder, ?_, hgiven.symm⟩
  rw [hsame _ _ (List.Perm.swap _ _ _), ← hgiven]

end Text
end ApiStubs
