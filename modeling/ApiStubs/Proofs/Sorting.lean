import Mathlib.Data.List.Forall2

/-!
# Stable sorting

A stable sort keeps the order of elements that compare alike, and a sorted list is fixed
by the order within each class of such elements.  So a sort does not see how elements of
different classes stand to each other, and lists that are related place by place are
still so after sorting.
-/

namespace ApiStubs
namespace Sorting

variable {α β : Type} {le : α → α → Bool}

/-- The elements that compare alike with one, in their order. -/
def ties (le : α → α → Bool) (a : α) (items : List α) : List α :=
  items.filter (fun b => le a b && le b a)

theorem ties_filter (a : α) (keep : α → Bool) (items : List α) :
    ties le a (items.filter keep) = (ties le a items).filter keep := by
  unfold ties
  rw [List.filter_filter, List.filter_filter]
  simp only [Bool.and_comm]

theorem ties_mergeSort
    (htrans : ∀ a b c, le a b = true → le b c = true → le a c = true)
    (htotal : ∀ a b, (le a b || le b a) = true) (a : α) (items : List α) :
    ties le a (items.mergeSort le) = ties le a items := by
  have hpairwise : (ties le a items).Pairwise (fun b c => le b c = true) := by
    apply List.pairwise_of_forall_mem_list
    intro b hb c hc
    simp only [ties, List.mem_filter, Bool.and_eq_true] at hb hc
    exact htrans b a c hb.2.2 hc.2.1
  have hsorted := List.sublist_mergeSort htrans htotal hpairwise List.filter_sublist
  -- The sorted list holds the whole class in its old order, and no more than the class.
  have hsublist := hsorted.filter (fun b => le a b && le b a)
  have hlength := ((List.mergeSort_perm items le).filter
    (fun b => le a b && le b a)).length_eq
  rw [ties, List.filter_filter] at hsublist
  simp only [Bool.and_self] at hsublist
  exact (hsublist.eq_of_length hlength.symm).symm

theorem eq_of_ties (htotal : ∀ a b, (le a b || le b a) = true) {left right : List α}
    (hleft : left.Pairwise (fun a b => le a b = true))
    (hright : right.Pairwise (fun a b => le a b = true))
    (hties : ∀ a, ties le a left = ties le a right) : left = right := by
  have hself : ∀ a, (le a a && le a a) = true := by
    intro a
    simpa using htotal a a
  have hmem : ∀ {a : α} {items : List α}, a ∈ ties le a items ↔ a ∈ items := by
    intro a items
    simp only [ties, List.mem_filter, hself, and_true]
  induction left generalizing right with
  | nil =>
      apply Eq.symm
      rw [List.eq_nil_iff_forall_not_mem]
      intro a ha
      rw [← hmem, ← hties a] at ha
      contradiction
  | cons a left ih =>
      cases right with
      | nil =>
          have ha := hmem.mpr (List.mem_cons_self (a := a) (l := left))
          rw [hties a] at ha
          contradiction
      | cons b right =>
          obtain ⟨hfirst, hlater⟩ := List.pairwise_cons.mp hleft
          obtain ⟨hfirst', hlater'⟩ := List.pairwise_cons.mp hright
          -- The first elements compare alike, so both lead the same class.
          have hba : le b a = true := by
            have ha : a ∈ b :: right := hmem.mp (hties a ▸ hmem.mpr List.mem_cons_self)
            rcases List.mem_cons.mp ha with rfl | ha
            · simpa using hself a
            · exact hfirst' a ha
          have hab : le a b = true := by
            have hb : b ∈ a :: left := hmem.mp ((hties b).symm ▸ hmem.mpr List.mem_cons_self)
            rcases List.mem_cons.mp hb with rfl | hb
            · simpa using hself b
            · exact hfirst b hb
          have hclass := hties a
          simp only [ties, List.filter_cons, hself a, hab, hba, Bool.and_self, if_true,
            List.cons.injEq] at hclass
          obtain ⟨rfl, -⟩ := hclass
          have hrest : ∀ c, ties le c left = ties le c right := by
            intro c
            have hclass := hties c
            unfold ties at hclass ⊢
            rw [List.filter_cons, List.filter_cons] at hclass
            split at hclass
            next => exact List.tail_eq_of_cons_eq hclass
            next => exact hclass
          rw [ih hlater hlater' hrest]

/-- What is kept of two sorted lists is the same if each class of it is. -/
theorem filter_mergeSort_eq
    (htrans : ∀ a b c, le a b = true → le b c = true → le a c = true)
    (htotal : ∀ a b, (le a b || le b a) = true) {keep : α → Bool} {left right : List α}
    (hties : ∀ a, ties le a (left.filter keep) = ties le a (right.filter keep)) :
    (left.mergeSort le).filter keep = (right.mergeSort le).filter keep := by
  apply eq_of_ties htotal
  · exact (List.pairwise_mergeSort htrans htotal left).filter keep
  · exact (List.pairwise_mergeSort htrans htotal right).filter keep
  · intro a
    rw [ties_filter, ties_filter, ties_mergeSort htrans htotal, ties_mergeSort htrans htotal,
      ← ties_filter, ← ties_filter, hties]

/-! ## Lists that are related place by place -/

theorem exists_pairs {related : α → β → Prop} {left : List α} {right : List β}
    (hrelated : List.Forall₂ related left right) :
    ∃ pairs : List (α × β), (∀ pair ∈ pairs, related pair.1 pair.2) ∧
      pairs.map Prod.fst = left ∧ pairs.map Prod.snd = right := by
  induction hrelated with
  | nil => exact ⟨[], by simp, rfl, rfl⟩
  | cons hfirst _ ih =>
      obtain ⟨pairs, hpairs, rfl, rfl⟩ := ih
      exact ⟨(_, _) :: pairs, List.forall_mem_cons.mpr ⟨hfirst, hpairs⟩, rfl, rfl⟩

/-- Sorting keeps lists related if related elements compare alike. -/
theorem forall₂_mergeSort {related : α → β → Prop} {le' : β → β → Bool} {left : List α}
    {right : List β} (hrelated : List.Forall₂ related left right)
    (hle : ∀ {a b a' b'}, related a a' → related b b' → le a b = le' a' b') :
    List.Forall₂ related (left.mergeSort le) (right.mergeSort le') := by
  obtain ⟨pairs, hpairs, rfl, rfl⟩ := exists_pairs hrelated
  let order (first second : α × β) : Bool := le first.1 second.1
  have hleft : (pairs.mergeSort order).map Prod.fst = (pairs.map Prod.fst).mergeSort le :=
    List.map_mergeSort (fun _ _ _ _ => rfl)
  have hright : (pairs.mergeSort order).map Prod.snd = (pairs.map Prod.snd).mergeSort le' :=
    List.map_mergeSort (fun first hfirst second hsecond =>
      hle (hpairs first hfirst) (hpairs second hsecond))
  rw [← hleft, ← hright, List.forall₂_map_left_iff, List.forall₂_map_right_iff,
    List.forall₂_same]
  intro pair hpair
  exact hpairs pair (List.mem_mergeSort.mp hpair)

end Sorting
end ApiStubs
