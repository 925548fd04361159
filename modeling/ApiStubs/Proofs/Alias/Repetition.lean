import ApiStubs.Proofs.Alias.MemberSets

/-!
# Registering again

An alias that the ledger has, with all the members given, can be registered without
effect.  Whatever has been registered with enough members is of this kind from then on,
since no registration takes members away.  So a sequence of registrations that has been
made once can be made again, and the ledger stays as it is.
-/

namespace ApiStubs
namespace Ledger

variable {ledger : Ledger} {a : Alias} {as : List Alias}

/-- The ledger has an alias of the name, and the members given are among its members. -/
structure Absorbs (ledger : Ledger) (a : Alias) : Prop where
  has : ledger.has a.space a.name = true
  subset : ∀ held ∈ ledger.aliases, held.space = a.space → held.name = a.name →
    a.members ⊆ held.members

theorem enter_of_absorbs (habsorbs : ledger.Absorbs a) : ledger.enter a = ledger := by
  have hkept : ∀ held ∈ ledger.aliases, (if held.space = a.space ∧ held.name = a.name then
      { held with members := Alias.joinMembers held.members a.members } else held) = held := by
    intro held hheld
    split
    next hkey => rw [Alias.joinMembers_of_subset (habsorbs.subset held hheld hkey.1 hkey.2)]
    next => rfl
  have hsame : ledger.addMembers a.space a.name a.members = ledger := by
    unfold addMembers
    rw [List.map_congr_left hkept, List.map_id']
  unfold enter register
  rw [if_pos habsorbs.has]
  exact hsame

theorem absorbs_enter (hmany : Alias.Many a.members) (ledger : Ledger) :
    (ledger.enter a).Absorbs a := by
  rcases register_cases ledger a.space a.name a.members with
    ⟨hhas, hregister⟩ | ⟨-, hfew, -⟩ | ⟨hhas, -, hregister⟩
  · obtain ⟨old, hold, hspace, hname⟩ := has_eq_true_iff.mp hhas
    rw [enter, hregister]
    constructor
    · rw [has_eq_true_iff]
      refine ⟨_, List.mem_map_of_mem hold, ?_⟩
      rw [if_pos ⟨hspace, hname⟩]
      exact ⟨hspace, hname⟩
    · intro held hheld hspace' hname' member hmember
      obtain ⟨other, -, rfl⟩ := List.mem_map.mp hheld
      split at hspace'
      next hkey =>
        rw [if_pos hkey]
        exact Alias.mem_joinMembers.mpr (.inr hmember)
      next hkey =>
        rw [if_neg hkey] at hname'
        exact absurd ⟨hspace', hname'⟩ hkey
  · exact absurd hmany (Nat.not_le_of_lt hfew)
  · rw [enter, hregister]
    constructor
    · rw [has_eq_true_iff]
      exact ⟨_, List.mem_append_right _ (List.mem_singleton.mpr rfl), rfl, rfl⟩
    · intro held hheld hspace hname member hmember
      rcases List.mem_append.mp hheld with hold | hnew
      · have hknown : ledger.has a.space a.name = true :=
          has_eq_true_iff.mpr ⟨held, hold, hspace, hname⟩
        rw [hhas] at hknown
        contradiction
      · rw [List.mem_singleton.mp hnew]
        exact Alias.mem_joinMembers.mpr (.inr hmember)

theorem Absorbs.enter (habsorbs : ledger.Absorbs a) (b : Alias) :
    (ledger.enter b).Absorbs a := by
  obtain ⟨known, hknown, hspace, hname⟩ := has_eq_true_iff.mp habsorbs.has
  constructor
  · obtain ⟨later, hlater, hspace', hname', -⟩ :=
      grows_register ledger b.space b.name b.members known hknown
    exact has_eq_true_iff.mpr ⟨later, hlater, hspace'.trans hspace, hname'.trans hname⟩
  · intro held hheld hspace' hname'
    rcases register_cases ledger b.space b.name b.members with
      ⟨-, hregister⟩ | ⟨-, -, hregister⟩ | ⟨hhas, -, hregister⟩
    · rw [Ledger.enter, hregister] at hheld
      obtain ⟨old, hold, rfl⟩ := List.mem_map.mp hheld
      split at hspace'
      next hkey =>
        rw [if_pos hkey] at hname' ⊢
        exact List.Subset.trans (habsorbs.subset old hold hspace' hname')
          (Alias.prefix_joinMembers _ _).subset
      next hkey =>
        rw [if_neg hkey] at hname' ⊢
        exact habsorbs.subset old hold hspace' hname'
    · rw [Ledger.enter, hregister] at hheld
      exact habsorbs.subset held hheld hspace' hname'
    · rw [Ledger.enter, hregister] at hheld
      rcases List.mem_append.mp hheld with hold | hnew
      · exact habsorbs.subset held hold hspace' hname'
      · -- The alias that was new has another name, since the old one was known.
        rw [List.mem_singleton] at hnew
        subst hnew
        have hfound : ledger.has b.space b.name = true :=
          has_eq_true_iff.mpr ⟨known, hknown, hspace.trans hspace'.symm, hname.trans hname'.symm⟩
        rw [hhas] at hfound
        contradiction

theorem Absorbs.foldl_enter (habsorbs : ledger.Absorbs a) (as : List Alias) :
    (as.foldl Ledger.enter ledger).Absorbs a :=
  List.foldlRecOn (motive := fun reached : Ledger => reached.Absorbs a) as _ habsorbs
    (fun _ hreached b _ => hreached.enter b)

/-- The ledger after registrations of enough members absorbs each of them. -/
theorem absorbs_foldl_enter (hmany : ∀ a ∈ as, Alias.Many a.members) (ledger : Ledger) :
    ∀ a ∈ as, (as.foldl enter ledger).Absorbs a := by
  induction as generalizing ledger with
  | nil => simp
  | cons first as ih =>
      intro a ha
      rw [List.foldl_cons]
      rcases List.mem_cons.mp ha with rfl | hlater
      · exact (absorbs_enter (hmany a List.mem_cons_self) ledger).foldl_enter as
      · exact ih (fun b hb => hmany b (List.mem_cons_of_mem first hb)) _ a hlater

theorem foldl_enter_of_absorbs (habsorbs : ∀ a ∈ as, ledger.Absorbs a) :
    as.foldl enter ledger = ledger := by
  induction as with
  | nil => rfl
  | cons first as ih =>
      rw [List.foldl_cons, enter_of_absorbs (habsorbs first List.mem_cons_self)]
      exact ih (fun a ha => habsorbs a (List.mem_cons_of_mem first ha))

/-- The same registrations made a second time change nothing. -/
theorem foldl_enter_repeated (hmany : ∀ a ∈ as, Alias.Many a.members) (ledger : Ledger) :
    as.foldl enter (as.foldl enter ledger) = as.foldl enter ledger :=
  foldl_enter_of_absorbs (absorbs_foldl_enter hmany ledger)

end Ledger
end ApiStubs
