import Mathlib.Data.List.Induction
import Mathlib.Data.List.Nodup
import Mathlib.Data.List.Perm.Basic

/-!
# Lists without repeated keys

In a list whose elements have different keys, looking a key up and being in the
list are the same, so the list is known up to order by what each key finds.
-/

namespace ApiStubs
namespace Keyed

variable {α κ : Type} {key : α → κ}

theorem find?_eq_some_iff [DecidableEq κ] {items : List α} (hnodup : (items.map key).Nodup) {k : κ}
    {a : α} : items.find? (fun b => key b = k) = some a ↔ a ∈ items ∧ key a = k := by
  constructor
  · intro hfind
    exact ⟨List.mem_of_find?_eq_some hfind, by simpa using List.find?_some hfind⟩
  · rintro ⟨ha, rfl⟩
    cases hfind : items.find? (fun b => key b = key a) with
    | none =>
        have hnot := List.find?_eq_none.mp hfind a ha
        simp at hnot
    | some b =>
        have hb := List.mem_of_find?_eq_some hfind
        have hkey : key b = key a := by simpa using List.find?_some hfind
        rw [List.inj_on_of_nodup_map hnodup hb ha hkey]

theorem perm_of_find?_eq [DecidableEq κ] {left right : List α} (hleft : (left.map key).Nodup)
    (hright : (right.map key).Nodup)
    (hfind : ∀ k, left.find? (fun b => key b = k) = right.find? (fun b => key b = k)) :
    left.Perm right := by
  apply (List.perm_ext_iff_of_nodup hleft.of_map hright.of_map).mpr
  intro a
  have hmem : ∀ {items : List α}, (items.map key).Nodup →
      (a ∈ items ↔ items.find? (fun b => key b = key a) = some a) := by
    intro items hnodup
    rw [find?_eq_some_iff hnodup]
    simp
  rw [hmem hleft, hmem hright, hfind]

/-- Lists with the same keys are the same if a key tells what its element is. -/
theorem eq_of_map_eq {left right : List α} (hkeys : left.map key = right.map key)
    (hsame : ∀ a ∈ left, ∀ b ∈ right, key a = key b → a = b) : left = right := by
  induction left generalizing right with
  | nil => exact (List.map_eq_nil_iff.mp hkeys.symm).symm
  | cons a left ih =>
      cases right with
      | nil => contradiction
      | cons b right =>
          rw [List.map_cons, List.map_cons, List.cons.injEq] at hkeys
          have hhead : a = b := hsame a List.mem_cons_self b List.mem_cons_self hkeys.1
          have htail : left = right := by
            apply ih hkeys.2
            intro c hc d hd
            exact hsame c (List.mem_cons_of_mem a hc) d (List.mem_cons_of_mem b hd)
          rw [hhead, htail]

theorem mem_of_lookup {β : Type} [BEq κ] [LawfulBEq κ] {pairs : List (κ × β)} {k : κ} {b : β}
    (hlookup : pairs.lookup k = some b) : (k, b) ∈ pairs := by
  obtain ⟨before, after, rfl, -⟩ := List.lookup_eq_some_iff.mp hlookup
  simp

theorem isSome_lookup_iff {β : Type} [BEq κ] [LawfulBEq κ] {pairs : List (κ × β)} {k : κ} :
    (pairs.lookup k).isSome = true ↔ ∃ b, (k, b) ∈ pairs := by
  constructor
  · intro hsome
    obtain ⟨b, hlookup⟩ := Option.isSome_iff_exists.mp hsome
    exact ⟨b, mem_of_lookup hlookup⟩
  · rintro ⟨b, hmem⟩
    by_contra hnone
    rw [Bool.not_eq_true, Option.isSome_eq_false_iff, Option.isNone_iff_eq_none,
      List.lookup_eq_none_iff] at hnone
    simpa using hnone (k, b) hmem

theorem lookup_eq_some_iff {β : Type} [BEq κ] [LawfulBEq κ] {pairs : List (κ × β)}
    (hnodup : (pairs.map (·.1)).Nodup) {k : κ} {b : β} :
    pairs.lookup k = some b ↔ (k, b) ∈ pairs := by
  refine ⟨mem_of_lookup, ?_⟩
  intro hmem
  obtain ⟨before, after, rfl⟩ := List.append_of_mem hmem
  refine List.lookup_eq_some_iff.mpr ⟨before, after, rfl, ?_⟩
  intro pair hpair
  rw [List.map_append, List.nodup_append] at hnodup
  have hdiffers := hnodup.2.2 pair.1 (List.mem_map_of_mem hpair) k (by simp)
  simpa using Ne.symm hdiffers

theorem lookup_filter_of_key {β : Type} [BEq κ] [LawfulBEq κ] (keep : κ → Bool) {k : κ}
    (hkeep : keep k = true) (pairs : List (κ × β)) :
    (pairs.filter (fun pair => keep pair.1)).lookup k = pairs.lookup k := by
  induction pairs with
  | nil => rfl
  | cons pair pairs ih =>
      obtain ⟨key, value⟩ := pair
      by_cases hkey : k = key
      · subst hkey
        simp [hkeep]
      · have hne : (k == key) = false := by simpa using hkey
        cases hpair : keep key <;> simp [List.lookup_cons, hpair, hne, ih]

theorem lookup_map_key {β ι : Type} [DecidableEq ι] [DecidableEq κ] {f : ι → κ}
    (hf : Function.Injective f) {k : ι} (pairs : List (ι × β)) :
    (pairs.map (fun pair => (f pair.1, pair.2))).lookup (f k) = pairs.lookup k := by
  induction pairs with
  | nil => rfl
  | cons pair pairs ih =>
      obtain ⟨key, b⟩ := pair
      simp [List.lookup_cons, ih, hf.eq_iff, beq_eq_decide]

theorem lookup_map_entry {β γ : Type} [BEq κ] [LawfulBEq κ] {f : κ → β → γ} {k : κ}
    (pairs : List (κ × β)) :
    (pairs.map (fun pair => (pair.1, f pair.1 pair.2))).lookup k = (pairs.lookup k).map (f k) := by
  induction pairs with
  | nil => rfl
  | cons pair pairs ih =>
      obtain ⟨key, value⟩ := pair
      by_cases hkey : k = key
      · subst hkey
        simp
      · have hne : (k == key) = false := by simpa using hkey
        simp [List.lookup_cons, hne, ih]

/-- A key that no element has yet can be added at the end. -/
theorem nodup_concat {items : List α} (hnodup : (items.map key).Nodup) {a : α}
    (hnew : key a ∉ items.map key) : ((items ++ [a]).map key).Nodup := by
  rw [List.map_append, List.nodup_append]
  refine ⟨hnodup, by simp, ?_⟩
  intro k hk other hother
  simp only [List.map_cons, List.map_nil, List.mem_singleton] at hother
  subst hother
  rintro rfl
  exact hnew hk

/-- Of the elements made from different keys, those of one key are made from it. -/
theorem filter_flatMap_key [DecidableEq κ] {keys : List κ} (hnodup : keys.Nodup)
    {f : κ → List α} (hkey : ∀ k, ∀ a ∈ f k, key a = k) (k : κ) :
    (keys.flatMap f).filter (fun a => key a = k) = if k ∈ keys then f k else [] := by
  have hsame : (f k).filter (fun a => key a = k) = f k := by
    rw [List.filter_eq_self]
    intro a ha
    exact decide_eq_true (hkey k a ha)
  have hother : ∀ j, j ≠ k → (f j).filter (fun a => key a = k) = [] := by
    intro j hj
    rw [List.filter_eq_nil_iff]
    intro a ha
    rw [hkey j a ha]
    simpa using hj
  induction keys with
  | nil => rfl
  | cons j keys ih =>
      obtain ⟨hnew, hrest⟩ := List.nodup_cons.mp hnodup
      rw [List.flatMap_cons, List.filter_append, ih hrest]
      by_cases hj : j = k
      · subst hj
        rw [hsame, if_neg hnew, if_pos List.mem_cons_self, List.append_nil]
      · rw [hother j hj, List.nil_append]
        simp only [List.mem_cons, Ne.symm hj, false_or]

/-- The parts of a list by key, one behind the other, hold its elements in another order. -/
theorem flatMap_perm {keys : List κ} (hkeys : keys.Nodup) {items : List α} (hitems : items.Nodup)
    {part : κ → List α} (hpart : ∀ k, (part k).Nodup)
    (hmem : ∀ {k a}, a ∈ part k ↔ a ∈ items ∧ key a = k) (hall : ∀ a ∈ items, key a ∈ keys) :
    (keys.flatMap part).Perm items := by
  have hparts : (keys.flatMap part).Nodup := by
    rw [List.nodup_flatMap]
    refine ⟨fun k _ => hpart k, ?_⟩
    apply hkeys.imp
    intro first second hdiffer a hfirst hsecond
    exact hdiffer ((hmem.mp hfirst).2.symm.trans (hmem.mp hsecond).2)
  apply (List.perm_ext_iff_of_nodup hparts hitems).mpr
  intro a
  rw [List.mem_flatMap]
  constructor
  · rintro ⟨k, -, ha⟩
    exact (hmem.mp ha).1
  · intro ha
    exact ⟨key a, hall a ha, hmem.mpr ⟨ha, rfl⟩⟩

/-- Taking repeated elements away leaves each one once. -/
theorem nodup_eraseDups [DecidableEq α] : ∀ items : List α, items.eraseDups.Nodup
  | [] => by simp
  | a :: rest => by
      rw [List.eraseDups_cons, List.nodup_cons]
      exact ⟨by simp, nodup_eraseDups _⟩
termination_by items => items.length
decreasing_by
  have hfilter := List.length_filter_le (fun b => !b == a) rest
  rw [List.length_cons]
  omega

theorem eraseDups_concat [DecidableEq α] (items : List α) (a : α) :
    (items ++ [a]).eraseDups =
      if a ∈ items then items.eraseDups else items.eraseDups ++ [a] := by
  rw [List.eraseDups_append]
  by_cases hmem : a ∈ items
  · simp [List.removeAll, hmem]
  · simp [List.removeAll, hmem, List.eraseDups_cons]

theorem filter_eraseDups [DecidableEq α] (keep : α → Bool) (items : List α) :
    items.eraseDups.filter keep = (items.filter keep).eraseDups := by
  induction items using List.reverseRecOn with
  | nil => rfl
  | append_singleton items a ih =>
      rw [eraseDups_concat, List.filter_append, List.filter_singleton]
      cases hkeep : keep a with
      | true =>
          have hkept : a ∈ items.filter keep ↔ a ∈ items := by simp [hkeep]
          simp only [cond_true, eraseDups_concat, hkept]
          split
          next => exact ih
          next => rw [List.filter_append, ih, List.filter_cons_of_pos hkeep, List.filter_nil]
      | false =>
          rw [cond_false, List.append_nil, ← ih]
          split
          next => rfl
          next => simp [hkeep]

/-- What elements are made into does not depend on their repetitions. -/
theorem eraseDups_map_eraseDups [DecidableEq α] [DecidableEq κ] (f : α → κ) (items : List α) :
    (items.eraseDups.map f).eraseDups = (items.map f).eraseDups := by
  induction items using List.reverseRecOn with
  | nil => rfl
  | append_singleton items a ih =>
      rw [eraseDups_concat, List.map_append, List.map_singleton, eraseDups_concat, ← ih]
      split
      next hmem => rw [if_pos (List.mem_map_of_mem hmem)]
      next =>
        have hmade : f a ∈ items.eraseDups.map f ↔ f a ∈ items.map f := by simp
        rw [List.map_append, List.map_singleton, eraseDups_concat]
        simp only [hmade]

theorem eraseDups_of_nodup [DecidableEq α] {items : List α} (hnodup : items.Nodup) :
    items.eraseDups = items := by
  induction items with
  | nil => rfl
  | cons a rest ih =>
      obtain ⟨hnew, hrest⟩ := List.nodup_cons.mp hnodup
      have hkept : rest.filter (fun b => !b == a) = rest := by
        rw [List.filter_eq_self]
        intro b hb
        have hne : b ≠ a := by
          rintro rfl
          exact hnew hb
        simpa using hne
      rw [List.eraseDups_cons, hkept, ih hrest]

theorem eraseDups_map_const [DecidableEq κ] {items : List α} (hne : items ≠ []) (k : κ) :
    (items.map (fun _ => k)).eraseDups = [k] := by
  cases items with
  | nil => contradiction
  | cons a rest => simp [List.eraseDups_cons]

end Keyed
end ApiStubs
