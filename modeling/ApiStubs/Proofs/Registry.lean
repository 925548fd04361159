import ApiStubs.Registry
import ApiStubs.Proofs.Alias.Ledger
import ApiStubs.Proofs.Constant.Registration
import ApiStubs.Proofs.Prefix.Tokens

/-!
# Well-formed registries

The invariant of a run: constants have proper names, no two aliases share a
name, and an alias unites registered constants of its space that all begin with
its tokens.  A registration keeps it, whoever made the members up.
-/

namespace ApiStubs

/-- The member is a registered constant that begins with the tokens of the alias. -/
def Alias.Covers (catalog : Catalog) (space name member : String) : Prop :=
  ∃ short, member = qualify space short ∧ catalog.Registered space short ∧
    Prefix.Begins name short

structure Alias.Sound (catalog : Catalog) (a : Alias) : Prop where
  enough : Alias.leastMembers ≤ a.members.length
  nodup : a.members.Nodup
  covers : ∀ member ∈ a.members, Alias.Covers catalog a.space a.name member

theorem Alias.Sound.exists_member {catalog : Catalog} {a : Alias}
    (hsound : a.Sound catalog) :
    ∃ short, qualify a.space short ∈ a.members ∧ catalog.Registered a.space short ∧
      Prefix.Begins a.name short := by
  have hpos : 0 < a.members.length :=
    Nat.lt_of_lt_of_le (by decide) hsound.enough
  obtain ⟨member, hmember⟩ := List.exists_mem_of_length_pos hpos
  obtain ⟨short, rfl, hregistered, hbegins⟩ := hsound.covers member hmember
  exact ⟨short, hmember, hregistered, hbegins⟩

/-- An alias stays sound while no constant is lost. -/
theorem Alias.Sound.mono {earlier later : Catalog} {a : Alias} (hsound : a.Sound earlier)
    (hkept : ∀ space name, earlier.Registered space name → later.Registered space name) :
    a.Sound later where
  enough := hsound.enough
  nodup := hsound.nodup
  covers := by
    intro member hmember
    obtain ⟨short, hname, hregistered, hbegins⟩ := hsound.covers member hmember
    exact ⟨short, hname, hkept _ _ hregistered, hbegins⟩

namespace Registry

structure WellFormed (registry : Registry) : Prop where
  properNames : registry.catalog.ProperNames
  distinct : registry.ledger.Distinct
  sound : ∀ a ∈ registry.ledger.aliases, a.Sound registry.catalog

theorem wellFormed_empty : WellFormed {} where
  properNames := by simp [Catalog.ProperNames]
  distinct := by simp [Ledger.Distinct]
  sound := by simp

theorem wellFormed_ofElements (elements : List (String × String)) :
    WellFormed { catalog := Catalog.ofElements elements } where
  properNames := Catalog.properNames_ofElements elements
  distinct := wellFormed_empty.distinct
  sound := by simp

variable {registry : Registry}

/-- The name of an alias can be read back, since its members are named properly. -/
theorem WellFormed.properAlias (hwell : registry.WellFormed) {a : Alias}
    (ha : a ∈ registry.ledger.aliases) : QualifiedName.Proper ⟨a.space, a.name⟩ := by
  obtain ⟨short, -, ⟨constant, hconstant, hspace, hname⟩, hbegins⟩ :=
    (hwell.sound a ha).exists_member
  have hproper := hwell.properNames constant hconstant
  refine ⟨?_, hbegins.ne_empty, hbegins.noDot ?_⟩
  · rw [← hspace]
    exact hproper.space_ne
  · rw [← hname]
    exact hproper.noDot

/-- The full name of an alias tells which one it is. -/
theorem WellFormed.eq_of_fullName (hwell : registry.WellFormed) {a b : Alias}
    (ha : a ∈ registry.ledger.aliases) (hb : b ∈ registry.ledger.aliases)
    (hname : a.fullName = b.fullName) : a = b := by
  have hsame := (hwell.properAlias ha).eq_of_text (hwell.properAlias hb) hname
  rw [QualifiedName.mk.injEq] at hsame
  exact List.inj_on_of_nodup_map hwell.distinct ha hb (Prod.ext hsame.1 hsame.2)

theorem WellFormed.hasFull_iff (hwell : registry.WellFormed) {fullName : String} :
    registry.ledger.hasFull fullName = true ↔
      ∃ a ∈ registry.ledger.aliases, a.fullName = fullName := by
  rw [Ledger.hasFull_eq_true_iff]
  constructor
  · rintro ⟨a, ha, -, hname⟩
    exact ⟨a, ha, hname⟩
  · rintro ⟨a, ha, hname⟩
    exact ⟨a, ha, hwell.properAlias ha, hname⟩

/-! ## Registering an alias -/

theorem WellFormed.register (hwell : registry.WellFormed) {space name : String}
    {members : List String}
    (hcovers : ∀ member ∈ members, Alias.Covers registry.catalog space name member) :
    WellFormed
      { registry with ledger := (registry.ledger.register space name members).1 } where
  properNames := hwell.properNames
  distinct := hwell.distinct.register space name members
  sound := by
    intro a ha
    rcases Ledger.mem_register ha with hold | ⟨old, hold, rfl, rfl, rfl⟩ | ⟨hmany, rfl⟩
    · exact hwell.sound a hold
    · have hsound := hwell.sound old hold
      refine ⟨?_, ?_, ?_⟩
      · exact hsound.enough.trans (Alias.prefix_joinMembers _ _).length_le
      · exact Alias.nodup_joinMembers hsound.nodup members
      · intro member hmember
        rcases Alias.mem_joinMembers.mp hmember with hmember | hmember
        · exact hsound.covers member hmember
        · exact hcovers member hmember
    · refine ⟨hmany, ?_, ?_⟩
      · exact Alias.nodup_joinMembers List.nodup_nil members
      · intro member hmember
        apply hcovers
        simpa using hmember

/-! ## Changing the catalog -/

theorem WellFormed.registerFull (hwell : registry.WellFormed)
    (fullName description : String) :
    WellFormed
      { registry with
        catalog := (registry.catalog.registerFull fullName description).1 } where
  properNames := hwell.properNames.registerFull fullName description
  distinct := hwell.distinct
  sound a ha := (hwell.sound a ha).mono
    (fun _ _ hregistered => hregistered.registerFull fullName description)

theorem WellFormed.setPrimitive (hwell : registry.WellFormed) (fullName : String)
    (primitive : Primitive) :
    WellFormed
      { registry with
        catalog := registry.catalog.setPrimitive fullName primitive } where
  properNames := hwell.properNames.setPrimitive fullName primitive
  distinct := hwell.distinct
  sound a ha := (hwell.sound a ha).mono
    (fun _ _ => (Catalog.registered_setPrimitive_iff hwell.properNames _ _).mpr)

end Registry
end ApiStubs
