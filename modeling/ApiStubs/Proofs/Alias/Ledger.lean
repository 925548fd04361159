import ApiStubs.Alias.Ledger
import ApiStubs.Proofs.Alias
import ApiStubs.Proofs.Keyed
import ApiStubs.Proofs.QualifiedName
import ApiStubs.Proofs.Text.UnitOrder

/-!
# What a registration does to the ledger

Registering an alias extends the one alias of that name, or adds it, or leaves
the ledger as it is.  Aliases are therefore never lost, they keep their place
and their members, and no name is given twice.
-/

namespace ApiStubs
namespace Ledger

variable {ledger : Ledger} {space name : String} {members : List String}

/-- The aliases of the later ledger hold those of the earlier one. -/
def Grows (earlier later : Ledger) : Prop :=
  ∀ a ∈ earlier.aliases, ∃ b ∈ later.aliases,
    b.space = a.space ∧ b.name = a.name ∧ a.members <+: b.members

theorem Grows.refl (ledger : Ledger) : Grows ledger ledger :=
  fun a ha => ⟨a, ha, rfl, rfl, List.prefix_rfl⟩

theorem Grows.trans {first second third : Ledger} (hfirst : Grows first second)
    (hsecond : Grows second third) : Grows first third := by
  intro a ha
  obtain ⟨b, hb, hspace, hname, hmembers⟩ := hfirst a ha
  obtain ⟨c, hc, hspace', hname', hmembers'⟩ := hsecond b hb
  exact ⟨c, hc, hspace'.trans hspace, hname'.trans hname, hmembers.trans hmembers'⟩

/-- No two aliases have the same space and name. -/
def Distinct (ledger : Ledger) : Prop :=
  (ledger.aliases.map (fun a => (a.space, a.name))).Nodup

theorem has_eq_true_iff :
    ledger.has space name = true ↔
      ∃ a ∈ ledger.aliases, a.space = space ∧ a.name = name := by
  simp [has, get?, List.find?_isSome]

theorem hasFull_eq_true_iff {fullName : String} :
    ledger.hasFull fullName = true ↔
      ∃ a ∈ ledger.aliases,
        QualifiedName.Proper ⟨a.space, a.name⟩ ∧ a.fullName = fullName := by
  constructor
  · intro hfull
    unfold hasFull at hfull
    split at hfull
    next => contradiction
    next qualified hread =>
      obtain ⟨hproper, htext⟩ := QualifiedName.ofText?_eq_some_iff.mp hread
      obtain ⟨a, ha, hspace, hname⟩ := has_eq_true_iff.mp hfull
      refine ⟨a, ha, ?_, ?_⟩
      · rw [hspace, hname]
        exact hproper
      · rw [Alias.fullName, hspace, hname]
        exact htext
  · rintro ⟨a, ha, hproper, rfl⟩
    have hread : QualifiedName.ofText? a.fullName = some ⟨a.space, a.name⟩ :=
      QualifiedName.ofText?_text hproper
    unfold hasFull
    rw [hread]
    exact has_eq_true_iff.mpr ⟨a, ha, rfl, rfl⟩

/-- A look-up finds the one alias of the name. -/
theorem get?_eq_some_iff (hdistinct : ledger.Distinct) {a : Alias} :
    ledger.get? space name = some a ↔
      a ∈ ledger.aliases ∧ a.space = space ∧ a.name = name := by
  have hfind := Keyed.find?_eq_some_iff hdistinct (k := (space, name)) (a := a)
  simpa only [get?, Prod.mk.injEq] using hfind

/-- The three ways in which a registration can end. -/
theorem register_cases (ledger : Ledger) (space name : String) (members : List String) :
    (ledger.has space name = true ∧
        ledger.register space name members =
          (ledger.addMembers space name members, true)) ∨
      (ledger.has space name = false ∧
        (Alias.joinMembers [] members).length < Alias.leastMembers ∧
        ledger.register space name members = (ledger, false)) ∨
      (ledger.has space name = false ∧
        Alias.leastMembers ≤ (Alias.joinMembers [] members).length ∧
        ledger.register space name members =
          (⟨ledger.aliases ++ [⟨space, name, Alias.joinMembers [] members⟩]⟩, true)) := by
  unfold register
  by_cases hhas : ledger.has space name = true
  · left
    exact ⟨hhas, by rw [if_pos hhas]⟩
  · rw [Bool.not_eq_true] at hhas
    by_cases hfew : (Alias.joinMembers [] members).length < Alias.leastMembers
    · right
      left
      exact ⟨hhas, hfew, by simp [hhas, hfew]⟩
    · right
      right
      exact ⟨hhas, Nat.le_of_not_lt hfew, by simp [hhas, hfew]⟩

/-- Where the aliases after a registration come from. -/
theorem mem_register {a : Alias}
    (ha : a ∈ (ledger.register space name members).1.aliases) :
    a ∈ ledger.aliases ∨
      (∃ old ∈ ledger.aliases, old.space = space ∧ old.name = name ∧
        a = { old with members := Alias.joinMembers old.members members }) ∨
      (Alias.leastMembers ≤ (Alias.joinMembers [] members).length ∧
        a = ⟨space, name, Alias.joinMembers [] members⟩) := by
  rcases register_cases ledger space name members with
    ⟨-, hregister⟩ | ⟨-, -, hregister⟩ | ⟨-, hmany, hregister⟩
  · rw [hregister] at ha
    obtain ⟨old, hold, rfl⟩ := List.mem_map.mp ha
    by_cases hkey : old.space = space ∧ old.name = name
    · right
      left
      exact ⟨old, hold, hkey.1, hkey.2, by rw [if_pos hkey]⟩
    · left
      rw [if_neg hkey]
      exact hold
  · left
    rw [hregister] at ha
    exact ha
  · rw [hregister] at ha
    rcases List.mem_append.mp ha with hold | hnew
    · exact .inl hold
    · exact .inr (.inr ⟨hmany, List.mem_singleton.mp hnew⟩)

theorem grows_register (ledger : Ledger) (space name : String) (members : List String) :
    Grows ledger (ledger.register space name members).1 := by
  rcases register_cases ledger space name members with
    ⟨-, hregister⟩ | ⟨-, -, hregister⟩ | ⟨-, -, hregister⟩
  · rw [hregister]
    intro a ha
    refine ⟨_, List.mem_map_of_mem ha, ?_⟩
    split
    next => exact ⟨rfl, rfl, Alias.prefix_joinMembers _ _⟩
    next => exact ⟨rfl, rfl, List.prefix_rfl⟩
  · rw [hregister]
    exact Grows.refl ledger
  · rw [hregister]
    intro a ha
    exact ⟨a, List.mem_append_left _ ha, rfl, rfl, List.prefix_rfl⟩

/-- An accepted registration leaves an alias that holds all members given. -/
theorem register_accepted
    (haccepted : (ledger.register space name members).2 = true) :
    ∃ a ∈ (ledger.register space name members).1.aliases,
      a.space = space ∧ a.name = name ∧ ∀ member ∈ members, member ∈ a.members := by
  rcases register_cases ledger space name members with
    ⟨hhas, hregister⟩ | ⟨-, -, hregister⟩ | ⟨-, -, hregister⟩
  · obtain ⟨old, hold, hspace, hname⟩ := has_eq_true_iff.mp hhas
    rw [hregister]
    refine ⟨_, List.mem_map_of_mem hold, ?_⟩
    rw [if_pos ⟨hspace, hname⟩]
    exact ⟨hspace, hname, fun member hmember => Alias.mem_joinMembers.mpr (.inr hmember)⟩
  · rw [hregister] at haccepted
    contradiction
  · rw [hregister]
    refine ⟨_, List.mem_append_right _ (List.mem_singleton.mpr rfl), rfl, rfl, ?_⟩
    intro member hmember
    exact Alias.mem_joinMembers.mpr (.inr hmember)

theorem Distinct.register (hdistinct : ledger.Distinct) (space name : String)
    (members : List String) : (ledger.register space name members).1.Distinct := by
  rcases register_cases ledger space name members with
    ⟨-, hregister⟩ | ⟨-, -, hregister⟩ | ⟨hhas, -, hregister⟩
  · rw [hregister]
    unfold Distinct addMembers
    rw [List.map_map]
    have hkeys : ((fun a => (a.space, a.name)) ∘ fun a : Alias =>
        if a.space = space ∧ a.name = name then
          { a with members := Alias.joinMembers a.members members }
        else a) = fun a => (a.space, a.name) := by
      funext a
      simp only [Function.comp_apply]
      split <;> rfl
    rw [hkeys]
    exact hdistinct
  · rw [hregister]
    exact hdistinct
  · rw [hregister]
    apply Keyed.nodup_concat hdistinct
    intro hmem
    obtain ⟨a, ha, hkey⟩ := List.mem_map.mp hmem
    rw [Prod.mk.injEq] at hkey
    have hhas' := has_eq_true_iff.mpr ⟨a, ha, hkey⟩
    rw [hhas] at hhas'
    contradiction

/-! ## Listing and looking up -/

theorem mem_aliasesOf {a : Alias} :
    a ∈ ledger.aliasesOf space ↔ a ∈ ledger.aliases ∧ a.space = space := by
  simp [aliasesOf, List.mem_mergeSort]

theorem Distinct.aliasesOf_strict (hdistinct : ledger.Distinct) (space : String) :
    (ledger.aliasesOf space).Pairwise
      (fun a b => Text.compareUnits a.name b.name = .lt) := by
  apply Text.mergeSort_key_strict
  apply List.Nodup.map_on
  · intro a ha b hb hname
    simp only [List.mem_filter, decide_eq_true_eq] at ha hb
    apply List.inj_on_of_nodup_map hdistinct ha.1 hb.1
    rw [ha.2, hb.2, hname]
  · exact hdistinct.of_map.filter _

/-- The listing goes through all aliases, each once. -/
theorem Distinct.listing_perm (hdistinct : ledger.Distinct) :
    ledger.listing.Perm ledger.aliases := by
  have hspaces : ledger.spaces.Nodup :=
    (Text.sortByUnits_perm _).nodup_iff.mpr (Keyed.nodup_eraseDups _)
  apply Keyed.flatMap_perm hspaces hdistinct.of_map _ mem_aliasesOf
  · intro a ha
    rw [spaces, Text.mem_sortByUnits, List.mem_eraseDups]
    exact List.mem_map_of_mem ha
  · intro space
    have hperm : (ledger.aliasesOf space).Perm (ledger.aliases.filter (·.space = space)) :=
      List.mergeSort_perm _ _
    exact hperm.nodup_iff.mpr (hdistinct.of_map.filter _)

/-- The aliases of a space that a look-up by member chooses from. -/
theorem mem_holders {fullName : String} {a : Alias} :
    a ∈ (ledger.aliasesOf space).filter (fullName ∈ ·.members) ↔
      a ∈ ledger.aliases ∧ a.space = space ∧ fullName ∈ a.members := by
  rw [List.mem_filter, mem_aliasesOf, decide_eq_true_eq, and_assoc]

theorem isSome_narrower (best? : Option Alias) (a : Alias) :
    (narrower best? a).isSome = true := by
  unfold narrower
  split
  next => rfl
  next => split <;> rfl

theorem isSome_foldl_narrower_iff {found : List Alias} {best? : Option Alias} :
    (found.foldl narrower best?).isSome = true ↔ best?.isSome = true ∨ found ≠ [] := by
  induction found generalizing best? with
  | nil => simp
  | cons first found ih => simp [ih, isSome_narrower]

theorem isSome_findByMember_iff {fullName : String} :
    (ledger.findByMember space fullName).isSome = true ↔
      ∃ a ∈ ledger.aliases, a.space = space ∧ fullName ∈ a.members := by
  rw [findByMember, isSome_foldl_narrower_iff]
  constructor
  · rintro (hnone | hne)
    · contradiction
    · obtain ⟨a, ha⟩ := List.exists_mem_of_ne_nil _ hne
      exact ⟨a, mem_holders.mp ha⟩
  · rintro ⟨a, ha⟩
    exact .inr (List.ne_nil_of_mem (mem_holders.mpr ha))

theorem findByMember_eq_none_iff {fullName : String} :
    ledger.findByMember space fullName = none ↔
      ∀ a ∈ ledger.aliases, a.space = space → fullName ∉ a.members := by
  rw [← Option.not_isSome_iff_eq_none, isSome_findByMember_iff]
  constructor
  · intro hnone a ha hspace hmember
    exact hnone ⟨a, ha, hspace, hmember⟩
  · rintro hall ⟨a, ha, hspace, hmember⟩
    exact hall a ha hspace hmember

theorem foldl_narrower_mem {found : List Alias} {best? : Option Alias} {a : Alias}
    (hfold : found.foldl narrower best? = some a) : a ∈ found ∨ best? = some a := by
  induction found generalizing best? with
  | nil => exact .inr hfold
  | cons first found ih =>
      rcases ih hfold with hmem | hbest
      · exact .inl (List.mem_cons_of_mem _ hmem)
      · unfold narrower at hbest
        split at hbest
        next =>
          rw [Option.some.injEq] at hbest
          subst hbest
          exact .inl List.mem_cons_self
        next best =>
          split at hbest
          next =>
            rw [Option.some.injEq] at hbest
            subst hbest
            exact .inl List.mem_cons_self
          next => exact .inr hbest

theorem mem_of_findByMember {fullName : String} {a : Alias}
    (hfind : ledger.findByMember space fullName = some a) :
    a ∈ ledger.aliases ∧ a.space = space ∧ fullName ∈ a.members := by
  rcases foldl_narrower_mem hfind with hmem | hnone
  · exact mem_holders.mp hmem
  · contradiction

end Ledger
end ApiStubs
