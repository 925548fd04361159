import ApiStubs.Constant.Catalog
import ApiStubs.Proofs.Keyed
import ApiStubs.Proofs.QualifiedName

/-!
# What a catalog holds

A registration puts a new constant behind the others or changes nothing, and
giving constants a primitive type changes nothing else about them.
-/

namespace ApiStubs
namespace Constant

/-- The constant with a type, unless it has one other than the default. -/
def withPrimitive (constant : Constant) (primitive : Primitive) : Constant :=
  if constant.primitive = .integer then { constant with primitive } else constant

@[simp]
theorem withPrimitive_space (constant : Constant) (primitive : Primitive) :
    (constant.withPrimitive primitive).space = constant.space := by
  unfold withPrimitive
  split <;> rfl

@[simp]
theorem withPrimitive_name (constant : Constant) (primitive : Primitive) :
    (constant.withPrimitive primitive).name = constant.name := by
  unfold withPrimitive
  split <;> rfl

@[simp]
theorem withPrimitive_fullName (constant : Constant) (primitive : Primitive) :
    (constant.withPrimitive primitive).fullName = constant.fullName := by
  simp only [fullName, withPrimitive_space, withPrimitive_name]

@[simp]
theorem withPrimitive_integer (constant : Constant) :
    constant.withPrimitive .integer = constant := by
  unfold withPrimitive
  split
  next hdefault => rw [← hdefault]
  next => rfl

theorem withPrimitive_withPrimitive (constant : Constant) (first second : Primitive) :
    (constant.withPrimitive first).withPrimitive second =
      constant.withPrimitive (if first = .integer then second else first) := by
  by_cases hfirst : first = .integer
  · subst hfirst
    simp
  · by_cases hdefault : constant.primitive = .integer
    · simp [withPrimitive, hfirst, hdefault]
    · simp [withPrimitive, hdefault]

end Constant

namespace Catalog

variable {catalog : Catalog} {space name fullName description : String}

/-- Some constant has the space and the short name. -/
def Registered (catalog : Catalog) (space name : String) : Prop :=
  ∃ constant ∈ catalog.constants, constant.space = space ∧ constant.name = name

/-- Every constant can be found by its full name. -/
def ProperNames (catalog : Catalog) : Prop :=
  ∀ constant ∈ catalog.constants,
    QualifiedName.Proper ⟨constant.space, constant.name⟩

theorem isSome_lookup_iff :
    (catalog.lookup space name).isSome = true ↔ catalog.Registered space name := by
  simp [lookup, Registered, List.find?_isSome]

theorem lookup_eq_none_iff :
    catalog.lookup space name = none ↔ ¬ catalog.Registered space name := by
  rw [← isSome_lookup_iff, Bool.not_eq_true, Option.isSome_eq_false_iff,
    Option.isNone_iff_eq_none]

/-! ## Registering -/

/-- The two ways in which a registration by full name can end. -/
theorem registerFull_cases (catalog : Catalog) (fullName description : String) :
    (catalog.registerFull fullName description).1 = catalog ∨
      ∃ qualified, QualifiedName.ofText? fullName = some qualified ∧
        ¬ catalog.Registered qualified.space qualified.name ∧
        (catalog.registerFull fullName description).1 =
          ⟨catalog.constants ++ [⟨qualified.space, qualified.name, description, .integer⟩]⟩ := by
  unfold registerFull
  cases hread : QualifiedName.ofText? fullName with
  | none => exact .inl rfl
  | some qualified =>
      unfold register
      cases hlookup : catalog.lookup qualified.space qualified.name with
      | some constant =>
          left
          simp only [hlookup]
      | none =>
          right
          refine ⟨qualified, rfl, lookup_eq_none_iff.mp hlookup, ?_⟩
          simp only [hlookup]

theorem Registered.registerFull (hregistered : catalog.Registered space name)
    (fullName description : String) :
    (catalog.registerFull fullName description).1.Registered space name := by
  rcases registerFull_cases catalog fullName description with hsame | ⟨_, -, -, hnew⟩
  · rw [hsame]
    exact hregistered
  · obtain ⟨constant, hmem, hkey⟩ := hregistered
    rw [hnew]
    exact ⟨constant, List.mem_append_left _ hmem, hkey⟩

theorem mem_registerFull {constant : Constant}
    (hmem : constant ∈ (catalog.registerFull fullName description).1.constants) :
    constant ∈ catalog.constants ∨
      ∃ qualified, QualifiedName.ofText? fullName = some qualified ∧
        constant = ⟨qualified.space, qualified.name, description, .integer⟩ := by
  rcases registerFull_cases catalog fullName description with
    hsame | ⟨qualified, hread, -, hnew⟩
  · rw [hsame] at hmem
    exact .inl hmem
  · rw [hnew] at hmem
    rcases List.mem_append.mp hmem with hold | hlast
    · exact .inl hold
    · exact .inr ⟨qualified, hread, List.mem_singleton.mp hlast⟩

theorem ProperNames.registerFull (hproper : catalog.ProperNames)
    (fullName description : String) :
    (catalog.registerFull fullName description).1.ProperNames := by
  intro constant hmem
  rcases mem_registerFull hmem with hold | ⟨qualified, hread, rfl⟩
  · exact hproper constant hold
  · exact (QualifiedName.ofText?_eq_some_iff.mp hread).1

/-- No two constants have the same space and name. -/
def Distinct (catalog : Catalog) : Prop :=
  (catalog.constants.map (fun constant => (constant.space, constant.name))).Nodup

theorem Distinct.registerFull (hdistinct : catalog.Distinct)
    (fullName description : String) :
    (catalog.registerFull fullName description).1.Distinct := by
  rcases registerFull_cases catalog fullName description with
    hsame | ⟨qualified, -, hnew, hregister⟩
  · rw [hsame]
    exact hdistinct
  · rw [hregister]
    apply Keyed.nodup_concat hdistinct
    intro hmem
    obtain ⟨constant, hconstant, hkey⟩ := List.mem_map.mp hmem
    rw [Prod.mk.injEq] at hkey
    exact hnew ⟨constant, hconstant, hkey⟩

/-! ## Giving primitive types -/

theorem fullName_eq_iff {constant : Constant}
    (hproper : QualifiedName.Proper ⟨constant.space, constant.name⟩) :
    constant.fullName = fullName ↔
      QualifiedName.ofText? fullName = some ⟨constant.space, constant.name⟩ := by
  rw [QualifiedName.ofText?_eq_some_iff]
  constructor
  · intro heq
    exact ⟨hproper, heq⟩
  · intro hread
    exact hread.2

/-- The type goes to the constant that the full name is read as. -/
theorem setPrimitive_eq_map_read (catalog : Catalog) (fullName : String)
    (primitive : Primitive) :
    catalog.setPrimitive fullName primitive =
      ⟨catalog.constants.map (fun constant => constant.withPrimitive
        (if QualifiedName.ofText? fullName = some ⟨constant.space, constant.name⟩ then primitive
          else .integer))⟩ := by
  unfold setPrimitive
  cases hread : QualifiedName.ofText? fullName with
  | none => simp
  | some qualified =>
      simp only [Catalog.mk.injEq]
      apply List.map_congr_left
      intro constant _
      have hkey : some qualified = some ⟨constant.space, constant.name⟩ ↔
          constant.space = qualified.space ∧ constant.name = qualified.name := by
        rw [Option.some.injEq, QualifiedName.mk.injEq, eq_comm, @eq_comm _ qualified.name]
      by_cases hmeant : constant.space = qualified.space ∧ constant.name = qualified.name
      · simp only [hkey.mpr hmeant, hmeant, true_and, if_true, Constant.withPrimitive]
      · rw [if_neg (fun hchange => hmeant ⟨hchange.1, hchange.2.1⟩),
          if_neg (fun hsame => hmeant (hkey.mp hsame)), Constant.withPrimitive_integer]

/-- With proper names, a full name means the constant that has it. -/
theorem setPrimitive_eq_map (hproper : catalog.ProperNames) (fullName : String)
    (primitive : Primitive) :
    catalog.setPrimitive fullName primitive =
      ⟨catalog.constants.map (fun constant => constant.withPrimitive
        (if constant.fullName = fullName then primitive else .integer))⟩ := by
  rw [setPrimitive_eq_map_read, Catalog.mk.injEq]
  apply List.map_congr_left
  intro constant hmem
  simp only [fullName_eq_iff (hproper constant hmem)]

theorem registered_setPrimitive_iff (hproper : catalog.ProperNames)
    (fullName : String) (primitive : Primitive) :
    (catalog.setPrimitive fullName primitive).Registered space name ↔
      catalog.Registered space name := by
  rw [setPrimitive_eq_map hproper]
  constructor
  · rintro ⟨constant, hmem, hkey⟩
    obtain ⟨old, hold, rfl⟩ := List.mem_map.mp hmem
    exact ⟨old, hold, by simpa using hkey⟩
  · rintro ⟨old, hold, hkey⟩
    exact ⟨_, List.mem_map_of_mem hold, by simpa using hkey⟩

theorem ProperNames.setPrimitive (hproper : catalog.ProperNames) (fullName : String)
    (primitive : Primitive) : (catalog.setPrimitive fullName primitive).ProperNames := by
  rw [setPrimitive_eq_map hproper]
  intro constant hmem
  obtain ⟨old, hold, rfl⟩ := List.mem_map.mp hmem
  simpa using hproper old hold

end Catalog
end ApiStubs
