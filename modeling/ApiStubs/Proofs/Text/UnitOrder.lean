import ApiStubs.Text.Units
import Mathlib.Data.List.Sort
import Mathlib.Data.Char

/-!
# The order of texts by code units

Comparing unit lists is the lexicographic comparison, and a text can be read
back from its units, so the order of texts is total, transitive and
antisymmetric.  Sorting by it therefore depends only on what is sorted.
-/

namespace ApiStubs
namespace Text

theorem compareUnitLists_eq_compare (us vs : List Nat) :
    compareUnitLists us vs = compare us vs := by
  induction us generalizing vs with
  | nil => cases vs <;> rfl
  | cons u us ih =>
      cases vs with
      | nil => rfl
      | cons v vs =>
          rw [compareUnitLists, List.compare_cons_cons, ih]
          rcases Nat.lt_trichotomy u v with hlt | heq | hgt
          · simp [hlt, Nat.compare_eq_lt.mpr hlt]
          · simp [heq]
          · simp [hgt, Nat.lt_asymm hgt, Nat.compare_eq_gt.mpr hgt]

/-! ## Reading a text back from its units -/

theorem toNat_not_surrogate (c : Char) :
    c.toNat < 0xD800 ∨ 0xE000 ≤ c.toNat := by
  rcases c.valid with hlow | ⟨hhigh, _⟩
  · left
    exact hlow
  · right
    exact hhigh

theorem toNat_lt_top (c : Char) : c.toNat < 0x110000 := by
  rcases c.valid with hbelow | ⟨-, habove⟩
  · exact Nat.lt_trans hbelow (by decide)
  · exact habove

/-- The units of the first character are a code of their own: no other
character begins in the same way. -/
theorem unitsOfChar_append_inj {c d : Char} {us vs : List Nat}
    (happend : unitsOfChar c ++ us = unitsOfChar d ++ vs) :
    c = d ∧ us = vs := by
  have hc := toNat_not_surrogate c
  have hd := toNat_not_surrogate d
  have hcTop := toNat_lt_top c
  have hdTop := toNat_lt_top d
  suffices hcode : c.toNat = d.toNat ∧ us = vs from
    ⟨Char.toNat_inj.mp hcode.1, hcode.2⟩
  unfold unitsOfChar at happend
  -- A pair begins with a surrogate, which is no character, so it meets only a pair.
  split at happend <;> split at happend <;>
    simp only [List.cons_append, List.nil_append, List.cons.injEq] at happend
  · exact happend
  · omega
  · omega
  · exact ⟨by omega, happend.2.2⟩

theorem flatMap_unitsOfChar_injective :
    Function.Injective (fun cs : List Char => cs.flatMap unitsOfChar) := by
  have hne : ∀ (c : Char) (us : List Nat), unitsOfChar c ++ us ≠ [] := by
    intro c us
    unfold unitsOfChar
    split <;> simp
  intro cs ds heq
  induction cs generalizing ds with
  | nil =>
      cases ds with
      | nil => rfl
      | cons d ds => exact absurd heq.symm (hne d _)
  | cons c cs ih =>
      cases ds with
      | nil => exact absurd heq (hne c _)
      | cons d ds =>
          simp only [List.flatMap_cons] at heq
          obtain ⟨hhead, htail⟩ := unitsOfChar_append_inj heq
          rw [hhead, ih htail]

theorem units_injective : Function.Injective units := by
  intro a b heq
  exact String.toList_inj.mp (flatMap_unitsOfChar_injective heq)

/-! ## The laws of the order -/

theorem compareUnits_eq_compare (a b : String) :
    compareUnits a b = compare (units a) (units b) :=
  compareUnitLists_eq_compare _ _

theorem compareUnits_swap (a b : String) : compareUnits b a = (compareUnits a b).swap := by
  rw [compareUnits_eq_compare, compareUnits_eq_compare]
  exact Std.OrientedCmp.eq_swap

theorem unitsLE_eq_isLE (a b : String) :
    unitsLE a b = (compare (units a) (units b)).isLE := by
  rw [unitsLE, compareUnits_eq_compare]
  cases compare (units a) (units b) <;> rfl

theorem unitsLE_total (a b : String) : (unitsLE a b || unitsLE b a) = true := by
  rw [unitsLE, unitsLE, compareUnits_swap a b]
  cases compareUnits a b <;> rfl

theorem unitsLE_trans (a b c : String) (hab : unitsLE a b = true)
    (hbc : unitsLE b c = true) : unitsLE a c = true := by
  rw [unitsLE_eq_isLE] at hab hbc ⊢
  exact Std.TransCmp.isLE_trans hab hbc

theorem unitsLE_antisymm {a b : String} (hab : unitsLE a b = true)
    (hba : unitsLE b a = true) : a = b := by
  rw [unitsLE_eq_isLE] at hab hba
  apply units_injective
  exact Std.LawfulEqCmp.eq_of_compare (Std.OrientedCmp.isLE_antisymm hab hba)

theorem compareUnits_eq_iff {a b : String} : compareUnits a b = .eq ↔ a = b := by
  rw [compareUnits_eq_compare, Std.LawfulEqCmp.compare_eq_iff_eq]
  exact units_injective.eq_iff

theorem compareUnits_lt_trans {a b c : String} (hab : compareUnits a b = .lt)
    (hbc : compareUnits b c = .lt) : compareUnits a c = .lt := by
  rw [compareUnits_eq_compare] at hab hbc ⊢
  exact Std.TransCmp.lt_trans hab hbc

theorem unitsLE_iff {a b : String} : unitsLE a b = true ↔ compareUnits a b ≠ .gt := by
  rw [unitsLE, bne_iff_ne]

theorem compareUnits_eq_lt {a b : String} (hle : unitsLE a b = true) (hne : a ≠ b) :
    compareUnits a b = .lt := by
  cases horder : compareUnits a b with
  | lt => rfl
  | eq => exact absurd (compareUnits_eq_iff.mp horder) hne
  | gt => exact absurd horder (unitsLE_iff.mp hle)

/-! ## Sorting by units -/

theorem sortByUnits_perm (texts : List String) : (sortByUnits texts).Perm texts :=
  List.mergeSort_perm _ _

@[simp]
theorem mem_sortByUnits {text : String} {texts : List String} :
    text ∈ sortByUnits texts ↔ text ∈ texts :=
  (sortByUnits_perm texts).mem_iff

theorem mergeSort_key_sorted {α : Type} (key : α → String) (items : List α) :
    (items.mergeSort (fun a b => unitsLE (key a) (key b))).Pairwise
      (fun a b => unitsLE (key a) (key b) = true) := by
  apply List.pairwise_mergeSort
  · intro a b c
    exact unitsLE_trans (key a) (key b) (key c)
  · intro a b
    exact unitsLE_total (key a) (key b)

/-- Sorting by a key that no two elements share depends on the elements only. -/
theorem mergeSort_key_eq_of_perm {α : Type} (key : α → String) {left right : List α}
    (hperm : left.Perm right)
    (hkey : ∀ a ∈ left, ∀ b ∈ left, key a = key b → a = b) :
    left.mergeSort (fun a b => unitsLE (key a) (key b)) =
      right.mergeSort (fun a b => unitsLE (key a) (key b)) := by
  refine List.Perm.eq_of_pairwise ?_ (mergeSort_key_sorted key left)
    (mergeSort_key_sorted key right) ?_
  · intro a b ha hb hab hba
    apply hkey a ((List.mergeSort_perm _ _).mem_iff.mp ha)
    · exact hperm.mem_iff.mpr ((List.mergeSort_perm _ _).mem_iff.mp hb)
    · exact unitsLE_antisymm hab hba
  · exact (List.mergeSort_perm _ _).trans
      (hperm.trans (List.mergeSort_perm _ _).symm)

/-- Keys that are all different stand in strict order after sorting by them. -/
theorem mergeSort_key_strict {α : Type} (key : α → String) {items : List α}
    (hnodup : (items.map key).Nodup) :
    (items.mergeSort (fun a b => unitsLE (key a) (key b))).Pairwise
      (fun a b => compareUnits (key a) (key b) = .lt) := by
  have hperm := (List.mergeSort_perm items (fun a b => unitsLE (key a) (key b))).map key
  have hdistinct := List.pairwise_map.mp (hperm.nodup_iff.mpr hnodup)
  apply (mergeSort_key_sorted key items).imp₂ _ hdistinct
  intro a b hle hne
  exact compareUnits_eq_lt hle hne

theorem sortByUnits_strict {texts : List String} (hnodup : texts.Nodup) :
    (sortByUnits texts).Pairwise (fun a b => compareUnits a b = .lt) :=
  mergeSort_key_strict id (by rwa [List.map_id])

end Text
end ApiStubs
