import ApiStubs.Proofs.Alias.Ledger
import Mathlib.Data.Finset.Basic
import Mathlib.Data.Finset.Dedup
import Mathlib.Logic.Function.Basic

/-!
# The member sets of a ledger

Seen without the order in which anything was registered, a ledger gives each name
of each space a set of members, or nothing.  A registration of two or more different
members is then the union with a set at one place, so such registrations can change
places with each other.
-/

namespace ApiStubs
namespace Alias

theorem toFinset_joinMembers (members new : List String) :
    (joinMembers members new).toFinset = members.toFinset ∪ new.toFinset := by
  ext member
  simp only [List.mem_toFinset, Finset.mem_union, mem_joinMembers]

theorem joinMembers_append_of_nodup {members new : List String}
    (hnodup : (members ++ new).Nodup) : joinMembers members new = members ++ new := by
  induction new generalizing members with
  | nil => simp
  | cons first new ih =>
      have hassoc : members ++ first :: new = members ++ [first] ++ new := by simp
      have hnew : first ∉ members := by
        intro hmem
        exact (List.nodup_append.mp hnodup).2.2 first hmem first List.mem_cons_self rfl
      rw [hassoc] at hnodup ⊢
      rw [joinMembers_cons, if_neg hnew, ih hnodup]

/-- Enough different members for an alias of their own. -/
def Many (members : List String) : Prop :=
  leastMembers ≤ (joinMembers [] members).length

theorem many_of_nodup {members : List String} (hnodup : members.Nodup)
    (hlength : leastMembers ≤ members.length) : Many members := by
  rw [Many, joinMembers_append_of_nodup (by simpa using hnodup), List.nil_append]
  exact hlength

end Alias

namespace Ledger

/-- The members of the alias that has a space and a name. -/
def memberSets (ledger : Ledger) (key : String × String) : Option (Finset String) :=
  (ledger.get? key.1 key.2).map (·.members.toFinset)

/-- The ledger after an alias has been registered. -/
def enter (ledger : Ledger) (a : Alias) : Ledger :=
  (ledger.register a.space a.name a.members).1

/-- The union with the members of an alias at its own place. -/
def unite (sets : String × String → Option (Finset String)) (a : Alias) :
    String × String → Option (Finset String) :=
  Function.update sets (a.space, a.name)
    (some ((sets (a.space, a.name)).getD ∅ ∪ a.members.toFinset))

theorem unite_comm (sets : String × String → Option (Finset String)) (a b : Alias) :
    unite (unite sets a) b = unite (unite sets b) a := by
  unfold unite
  by_cases hkey : (a.space, a.name) = (b.space, b.name)
  · -- At one place, the unions are taken in the other order.
    rw [hkey]
    simp only [Function.update_self, Option.getD_some, Function.update_idem,
      Finset.union_right_comm]
  · rw [Function.update_of_ne (Ne.symm hkey), Function.update_of_ne hkey]
    exact Function.update_comm hkey _ _ sets

theorem get?_addMembers (ledger : Ledger) (space name : String) (members : List String)
    (key : String × String) :
    (ledger.addMembers space name members).get? key.1 key.2 =
      (ledger.get? key.1 key.2).map (fun a =>
        if a.space = space ∧ a.name = name then
          { a with members := Alias.joinMembers a.members members }
        else a) := by
  unfold addMembers get?
  rw [List.find?_map]
  congr 1
  apply congrArg (fun test => List.find? test ledger.aliases)
  funext a
  rw [Function.comp_apply]
  split <;> rfl

theorem get?_key {ledger : Ledger} {space name : String} {a : Alias}
    (hget : ledger.get? space name = some a) : a.space = space ∧ a.name = name := by
  simpa [get?] using List.find?_some hget

/-- A registration is not seen under another name. -/
theorem get?_enter_of_ne {a : Alias} {space name : String}
    (hother : (a.space, a.name) ≠ (space, name)) (ledger : Ledger) :
    (ledger.enter a).get? space name = ledger.get? space name := by
  rcases register_cases ledger a.space a.name a.members with
    ⟨-, hregister⟩ | ⟨-, -, hregister⟩ | ⟨-, -, hregister⟩
  · rw [enter, hregister, get?_addMembers ledger a.space a.name a.members (space, name)]
    cases hget : ledger.get? space name with
    | none => rfl
    | some held =>
        rw [Option.map_some, if_neg]
        rintro ⟨hspace, hname⟩
        apply hother
        rw [← hspace, ← hname, (get?_key hget).1, (get?_key hget).2]
  · rw [enter, hregister]
  · have hnot : ¬ (a.space = space ∧ a.name = name) := by
      rwa [← Prod.mk.injEq]
    rw [enter, hregister]
    simp [get?, hnot]

theorem get?_foldl_enter_of_not_mem {as : List Alias} {space name : String}
    (hnot : (space, name) ∉ as.map (fun a => (a.space, a.name))) (ledger : Ledger) :
    (as.foldl enter ledger).get? space name = ledger.get? space name := by
  induction as generalizing ledger with
  | nil => rfl
  | cons a as ih =>
      rw [List.map_cons, List.mem_cons, not_or] at hnot
      rw [List.foldl_cons, ih hnot.2, get?_enter_of_ne (Ne.symm hnot.1)]

theorem memberSets_addMembers {ledger : Ledger} {space name : String}
    (hhas : ledger.has space name = true) (members : List String) :
    (ledger.addMembers space name members).memberSets =
      unite ledger.memberSets ⟨space, name, members⟩ := by
  obtain ⟨old, hold⟩ := Option.isSome_iff_exists.mp hhas
  funext key
  rw [memberSets, get?_addMembers, unite]
  by_cases hkey : key = (space, name)
  · subst hkey
    simp only [Function.update_self, memberSets, hold, Option.map_some, Option.getD_some,
      get?_key hold, and_self, if_true, Alias.toFinset_joinMembers]
  · rw [Function.update_of_ne hkey, memberSets, Option.map_map]
    cases hget : ledger.get? key.1 key.2 with
    | none => rfl
    | some a =>
        have hother : ¬ (a.space = space ∧ a.name = name) := by
          rw [(get?_key hget).1, (get?_key hget).2, ← Prod.mk.injEq]
          exact hkey
        rw [Option.map_some, Option.map_some, Function.comp_apply, if_neg hother]

/-- A registration of enough members is a union, whether the alias is new or not. -/
theorem memberSets_enter {ledger : Ledger} {a : Alias} (hmany : Alias.Many a.members) :
    (ledger.enter a).memberSets = unite ledger.memberSets a := by
  rcases register_cases ledger a.space a.name a.members with
    ⟨hhas, hregister⟩ | ⟨-, hfew, -⟩ | ⟨hhas, -, hregister⟩
  · rw [enter, hregister]
    exact memberSets_addMembers hhas a.members
  · exact absurd hmany (Nat.not_le_of_lt hfew)
  · have hnone : ledger.get? a.space a.name = none := by
      rw [← Option.isNone_iff_eq_none, ← Option.isSome_eq_false_iff]
      exact hhas
    rw [enter, hregister]
    funext key
    rw [memberSets, unite, get?, List.find?_append]
    by_cases hkey : key = (a.space, a.name)
    · subst hkey
      have hfind : ledger.aliases.find? (fun b => b.space = a.space ∧ b.name = a.name) =
          none := hnone
      simp only [hfind, Function.update_self, memberSets, hnone]
      simp [Alias.toFinset_joinMembers]
    · have hother : ¬ (a.space = key.1 ∧ a.name = key.2) := by
        rintro ⟨hspace, hname⟩
        exact hkey (Prod.ext hspace.symm hname.symm)
      rw [Function.update_of_ne hkey]
      simp [hother, memberSets, get?]

theorem memberSets_foldl_enter {as : List Alias}
    (hmany : ∀ a ∈ as, Alias.Many a.members) (ledger : Ledger) :
    (as.foldl enter ledger).memberSets = as.foldl unite ledger.memberSets := by
  induction as generalizing ledger with
  | nil => rfl
  | cons a as ih =>
      rw [List.foldl_cons, List.foldl_cons,
        ih (fun b hb => hmany b (List.mem_cons_of_mem a hb)),
        memberSets_enter (hmany a List.mem_cons_self)]

/-- Registrations of enough members lead to the same sets in every order. -/
theorem memberSets_foldl_enter_perm {left right : List Alias} (hperm : left.Perm right)
    (hmany : ∀ a ∈ left, Alias.Many a.members) (ledger : Ledger) :
    (left.foldl enter ledger).memberSets = (right.foldl enter ledger).memberSets := by
  have hright : ∀ a ∈ right, Alias.Many a.members :=
    fun a ha => hmany a (hperm.mem_iff.mpr ha)
  rw [memberSets_foldl_enter hmany, memberSets_foldl_enter hright]
  exact hperm.foldl_eq' (fun a _ b _ sets => unite_comm sets a b) _

end Ledger
end ApiStubs
