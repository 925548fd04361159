import ApiStubs.Proofs.Alias.MemberSets
import Mathlib.Data.Finset.Card

/-!
# The narrowest alias of a member

A look-up by member goes through the aliases of a space by name and keeps the first one
with the fewest members.  The alias that it ends with is narrower than every other one
that has the member, and no two aliases can both be that.  What makes an alias narrow is
its name and the number of its different members, so the look-up can be answered from
the sets of members alone, whatever has led to them.
-/

namespace ApiStubs
namespace Alias

variable {a b c : Alias}

/-- Fewer members, or as many and a name that comes first. -/
def Narrower (a b : Alias) : Prop :=
  a.members.length < b.members.length ∨
    (a.members.length = b.members.length ∧ Text.compareUnits a.name b.name = .lt)

instance (a b : Alias) : Decidable (Narrower a b) :=
  inferInstanceAs (Decidable (_ ∨ _))

theorem Narrower.trans (hab : Narrower a b) (hbc : Narrower b c) : Narrower a c := by
  rcases hab with hfewer | ⟨heq, hname⟩
  · rcases hbc with hfewer' | ⟨heq', -⟩
    · exact .inl (Nat.lt_trans hfewer hfewer')
    · exact .inl (heq' ▸ hfewer)
  · rcases hbc with hfewer' | ⟨heq', hname'⟩
    · exact .inl (heq ▸ hfewer')
    · exact .inr ⟨heq.trans heq', Text.compareUnits_lt_trans hname hname'⟩

theorem Narrower.asymm (hab : Narrower a b) : ¬ Narrower b a := by
  intro hba
  rcases hab.trans hba with hfewer | ⟨-, hname⟩
  · exact Nat.lt_irrefl _ hfewer
  · rw [Text.compareUnits_self] at hname
    contradiction

end Alias

namespace Ledger

variable {ledger first second : Ledger} {space fullName : String} {a b : Alias}

/-- An alias with the member that is narrower than all others of its space with it. -/
structure IsNarrowest (ledger : Ledger) (space fullName : String) (a : Alias) : Prop where
  mem : a ∈ ledger.aliases
  space_eq : a.space = space
  holds : fullName ∈ a.members
  least : ∀ b ∈ ledger.aliases, b.space = space → fullName ∈ b.members → b ≠ a →
    a.Narrower b

theorem IsNarrowest.unique (ha : ledger.IsNarrowest space fullName a)
    (hb : ledger.IsNarrowest space fullName b) : a = b := by
  by_contra hne
  have hab := ha.least b hb.mem hb.space_eq hb.holds (Ne.symm hne)
  exact hab.asymm (hb.least a ha.mem ha.space_eq ha.holds hne)

/-! ## The scan -/

/-- Of two aliases in the order of their names, the narrower one is kept. -/
theorem narrower_cases (hname : Text.compareUnits a.name b.name = .lt) :
    (narrower (some a) b = some a ∧ a.Narrower b) ∨
      (narrower (some a) b = some b ∧ b.Narrower a) := by
  unfold narrower
  by_cases hfewer : b.members.length < a.members.length
  · right
    exact ⟨by simp [hfewer], .inl hfewer⟩
  · left
    refine ⟨by simp [hfewer], ?_⟩
    rcases Nat.lt_or_eq_of_le (Nat.le_of_not_lt hfewer) with hless | heq
    · exact .inl hless
    · exact .inr ⟨heq, hname⟩

/-- What is dropped is less narrow than what is kept, and so than what is found. -/
theorem least_of_dropped {kept dropped : Alias} {found : List Alias}
    (hnarrower : kept.Narrower dropped)
    (hkept : ∀ b ∈ kept :: found, b ≠ a → a.Narrower b) :
    ∀ b ∈ dropped :: kept :: found, b ≠ a → a.Narrower b := by
  intro b hb hne
  rcases List.mem_cons.mp hb with rfl | hb
  · by_cases hfirst : kept = a
    · exact hfirst ▸ hnarrower
    · exact (hkept kept List.mem_cons_self hfirst).trans hnarrower
  · exact hkept b hb hne

theorem least_of_foldl_narrower {found : List Alias} {best : Alias}
    (hsorted : (best :: found).Pairwise (fun a b => Text.compareUnits a.name b.name = .lt))
    (hfold : found.foldl narrower (some best) = some a) :
    ∀ b ∈ best :: found, b ≠ a → a.Narrower b := by
  induction found generalizing best with
  | nil =>
      intro b hb hne
      rw [List.foldl_nil, Option.some.injEq] at hfold
      exact absurd ((List.mem_singleton.mp hb).trans hfold) hne
  | cons next found ih =>
      obtain ⟨hbest, hfound⟩ := List.pairwise_cons.mp hsorted
      have hrest : (best :: found).Pairwise
          (fun a b => Text.compareUnits a.name b.name = .lt) := by
        apply List.pairwise_cons.mpr
        exact ⟨fun b hb => hbest b (List.mem_cons_of_mem next hb), hfound.of_cons⟩
      rw [List.foldl_cons] at hfold
      rcases narrower_cases (hbest next List.mem_cons_self) with
        ⟨hkeep, hnarrower⟩ | ⟨hchange, hnarrower⟩
      · rw [hkeep] at hfold
        intro b hb
        have hperm : (best :: next :: found).Perm (next :: best :: found) := List.Perm.swap _ _ _
        exact least_of_dropped hnarrower (ih hrest hfold) b (hperm.mem_iff.mp hb)
      · rw [hchange] at hfold
        exact least_of_dropped hnarrower (ih hfound hfold)

theorem Distinct.isNarrowest_findByMember (hdistinct : ledger.Distinct)
    (hfind : ledger.findByMember space fullName = some a) :
    ledger.IsNarrowest space fullName a := by
  obtain ⟨ha, hspace, hmember⟩ := mem_of_findByMember hfind
  refine ⟨ha, hspace, hmember, ?_⟩
  intro b hb hspaceB hmemberB
  have hsorted := (hdistinct.aliasesOf_strict space).filter (fun a => fullName ∈ a.members)
  have hholds := mem_holders.mpr ⟨hb, hspaceB, hmemberB⟩
  unfold findByMember at hfind
  cases hfound : (ledger.aliasesOf space).filter (fun a => fullName ∈ a.members) with
  | nil =>
      rw [hfound] at hholds
      simp at hholds
  | cons best found =>
      rw [hfound] at hsorted hfind hholds
      exact least_of_foldl_narrower hsorted hfind b hholds

/-- A look-up by member finds the narrowest alias, and finds it whenever there is one. -/
theorem Distinct.findByMember_eq_some_iff (hdistinct : ledger.Distinct) :
    ledger.findByMember space fullName = some a ↔ ledger.IsNarrowest space fullName a := by
  constructor
  · exact hdistinct.isNarrowest_findByMember
  · intro ha
    have hsome := isSome_findByMember_iff.mpr ⟨a, ha.mem, ha.space_eq, ha.holds⟩
    obtain ⟨found, hfind⟩ := Option.isSome_iff_exists.mp hsome
    rw [hfind, (hdistinct.isNarrowest_findByMember hfind).unique ha]

/-! ## Ledgers with the same sets of members -/

/-- Names are given once, and members are listed once. -/
structure Tidy (ledger : Ledger) : Prop where
  distinct : ledger.Distinct
  nodup : ∀ a ∈ ledger.aliases, a.members.Nodup

theorem Tidy.enter (htidy : ledger.Tidy) (a : Alias) : (ledger.enter a).Tidy where
  distinct := htidy.distinct.register a.space a.name a.members
  nodup := by
    intro b hb
    rcases mem_register hb with hold | ⟨old, hold, -, -, rfl⟩ | ⟨-, rfl⟩
    · exact htidy.nodup b hold
    · exact Alias.nodup_joinMembers (htidy.nodup old hold) a.members
    · exact Alias.nodup_joinMembers List.nodup_nil a.members

/-- The ledger that registrations lead to, from the start. -/
def ofEntries (entries : List Alias) : Ledger :=
  entries.foldl enter {}

theorem tidy_ofEntries (entries : List Alias) : (ofEntries entries).Tidy :=
  List.foldlRecOn (motive := fun reached : Ledger => reached.Tidy) entries _
    ⟨by simp [Distinct], by simp⟩ (fun _ hreached a _ => hreached.enter a)

/-- In a ledger with the same sets, an alias is found again with its members in some
order. -/
theorem Tidy.exists_twin (hfirst : first.Tidy) (hsecond : second.Tidy)
    (hsets : first.memberSets = second.memberSets) (ha : a ∈ first.aliases) :
    ∃ b ∈ second.aliases, b.space = a.space ∧ b.name = a.name ∧ b.members.Perm a.members := by
  have hget : first.get? a.space a.name = some a :=
    (get?_eq_some_iff hfirst.distinct).mpr ⟨ha, rfl, rfl⟩
  have hset : second.memberSets (a.space, a.name) = some a.members.toFinset := by
    rw [← hsets, memberSets, hget, Option.map_some]
  obtain ⟨b, hfound, hmembers⟩ := Option.map_eq_some_iff.mp hset
  obtain ⟨hb, hspace, hname⟩ := (get?_eq_some_iff hsecond.distinct).mp hfound
  exact ⟨b, hb, hspace, hname, List.perm_of_nodup_nodup_toFinset_eq (hsecond.nodup b hb)
    (hfirst.nodup a ha) hmembers⟩

theorem IsNarrowest.of_twin (hfirst : first.Tidy) (hsecond : second.Tidy)
    (hsets : first.memberSets = second.memberSets)
    (ha : first.IsNarrowest space fullName a) (hb : b ∈ second.aliases)
    (hspace : b.space = a.space) (hname : b.name = a.name)
    (hmembers : b.members.Perm a.members) : second.IsNarrowest space fullName b where
  mem := hb
  space_eq := hspace.trans ha.space_eq
  holds := hmembers.mem_iff.mpr ha.holds
  least := by
    intro c hc hspaceC hmemberC hne
    obtain ⟨d, hd, hspaceD, hnameD, hmembersD⟩ := hsecond.exists_twin hfirst hsets.symm hc
    have hother : d ≠ a := by
      rintro rfl
      apply hne
      apply List.inj_on_of_nodup_map hsecond.distinct hc hb
      rw [hspace, hname, hspaceD, hnameD]
    have hnarrower := ha.least d hd (hspaceD.trans hspaceC) (hmembersD.mem_iff.mpr hmemberC) hother
    unfold Alias.Narrower at hnarrower ⊢
    rwa [hmembers.length_eq, hname, ← hmembersD.length_eq, ← hnameD]

theorem Tidy.exists_findByMember (hfirst : first.Tidy) (hsecond : second.Tidy)
    (hsets : first.memberSets = second.memberSets)
    (hfind : first.findByMember space fullName = some a) :
    ∃ b, second.findByMember space fullName = some b ∧ b.name = a.name := by
  have ha := hfirst.distinct.isNarrowest_findByMember hfind
  obtain ⟨b, hb, hspace, hname, hmembers⟩ := hfirst.exists_twin hsecond hsets ha.mem
  have hnarrowest := ha.of_twin hfirst hsecond hsets hb hspace hname hmembers
  exact ⟨b, hsecond.distinct.findByMember_eq_some_iff.mpr hnarrowest, hname⟩

/-- The name that a look-up by member gives is a matter of the sets of members. -/
theorem Tidy.name_findByMember_eq (hfirst : first.Tidy) (hsecond : second.Tidy)
    (hsets : first.memberSets = second.memberSets) (space fullName : String) :
    (first.findByMember space fullName).map (·.name) =
      (second.findByMember space fullName).map (·.name) := by
  cases hfind : first.findByMember space fullName with
  | some a =>
      obtain ⟨b, hfound, hname⟩ := hfirst.exists_findByMember hsecond hsets hfind
      rw [hfound, Option.map_some, Option.map_some, hname]
  | none =>
      cases hfound : second.findByMember space fullName with
      | none => rfl
      | some b =>
          obtain ⟨a, hagain, -⟩ := hsecond.exists_findByMember hfirst hsets.symm hfound
          rw [hfind] at hagain
          contradiction

/-- After any registrations, a look-up by member finds nothing exactly if no alias of the
space has the member, and otherwise the narrowest one that has it.  Registrations that
end in the same aliases with the same sets of members give the same name. -/
theorem findByMember_narrowest (entries : List Alias) (space fullName : String) :
    let ledger := ofEntries entries
    (ledger.findByMember space fullName = none ↔
      ∀ a ∈ ledger.aliases, a.space = space → fullName ∉ a.members) ∧
      (∀ a, ledger.findByMember space fullName = some a ↔
        ledger.IsNarrowest space fullName a) ∧
      ∀ others, (ofEntries others).memberSets = ledger.memberSets →
        ((ofEntries others).findByMember space fullName).map (·.name) =
          (ledger.findByMember space fullName).map (·.name) := by
  intro ledger
  have htidy : ledger.Tidy := tidy_ofEntries entries
  refine ⟨findByMember_eq_none_iff, fun a => htidy.distinct.findByMember_eq_some_iff, ?_⟩
  intro others hsets
  exact (tidy_ofEntries others).name_findByMember_eq htidy hsets space fullName

/-- An alias that has grown is left for one with fewer members, and of two with as many
the first by name is taken, in whatever order they were registered. -/
theorem findByMember_narrowest_of_grown_alias :
    let mode : Alias := ⟨"gui", "MODE", ["gui.MODE_ON", "gui.MODE_OFF"]⟩
    let grown : Alias := ⟨"gui", "MODE", ["gui.MODE_OFF", "gui.MODE_AUTO"]⟩
    let state : Alias := ⟨"gui", "STATE", ["gui.MODE_OFF", "gui.MODE_ON"]⟩
    let power : Alias := ⟨"gui", "POWER", ["gui.MODE_ON", "gui.MODE_OFF"]⟩
    let ledger := ofEntries [mode, grown, state, power]
    let other := ofEntries [state, power, grown, mode]
    (ofEntries [mode, state]).findByMember "gui" "gui.MODE_ON" = some mode ∧
      ledger.findByMember "gui" "gui.MODE_ON" = some power ∧
      ledger ≠ other ∧ other.memberSets = ledger.memberSets ∧
      (other.findByMember "gui" "gui.MODE_ON").map (·.name) = some "POWER" ∧
      ledger.findByMember "gui" "gui.MODE_NONE" = none := by
  intro mode grown state power ledger other
  obtain ⟨-, hbefore, -⟩ := findByMember_narrowest [mode, state] "gui" "gui.MODE_ON"
  obtain ⟨-, hsome, hsame⟩ := findByMember_narrowest [mode, grown, state, power] "gui"
    "gui.MODE_ON"
  obtain ⟨hnone, -, -⟩ := findByMember_narrowest [mode, grown, state, power] "gui"
    "gui.MODE_NONE"
  have hmode : (ofEntries [mode, state]).IsNarrowest "gui" "gui.MODE_ON" mode :=
    ⟨by decide +kernel, rfl, by decide, by decide +kernel⟩
  have hpower : ledger.IsNarrowest "gui" "gui.MODE_ON" power :=
    ⟨by decide +kernel, rfl, by decide, by decide +kernel⟩
  have hperm : [state, power, grown, mode].Perm [mode, grown, state, power] := by decide +kernel
  have hmany : ∀ a ∈ [state, power, grown, mode], Alias.Many a.members := by
    unfold Alias.Many
    decide +kernel
  have hsets : other.memberSets = ledger.memberSets := memberSets_foldl_enter_perm hperm hmany {}
  refine ⟨(hbefore mode).mpr hmode, (hsome power).mpr hpower, by decide +kernel, hsets, ?_,
    hnone.mpr (by decide +kernel)⟩
  rw [hsame _ hsets, (hsome power).mpr hpower, Option.map_some]

end Ledger
end ApiStubs
