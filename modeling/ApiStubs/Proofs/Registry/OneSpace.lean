import ApiStubs.Proofs.Alias.OneSpace
import ApiStubs.Proofs.Constant.Names

/-!
# The registry of one space

Constants are found, registered and given types by their full names, so the
constants of a space are a catalog of their own, just as its aliases are a ledger of
their own.  Two registries with the same part at a space cannot be told apart by
anything that asks about that space only.
-/

namespace ApiStubs

namespace Catalog

open Prefix (namesOf)

variable {catalog first second : Catalog} {space fullName : String}

/-- The constants of a space alone, in the order of their registration. -/
def only (catalog : Catalog) (space : String) : Catalog :=
  ⟨catalog.constantsOf space⟩

@[simp]
theorem constantsOf_only (catalog : Catalog) (space : String) :
    (catalog.only space).constantsOf space = catalog.constantsOf space := by
  unfold only constantsOf
  rw [List.filter_filter]
  simp only [Bool.and_self]

@[simp]
theorem namesOf_only (catalog : Catalog) (space : String) :
    namesOf (catalog.only space) space = namesOf catalog space := by
  rw [namesOf, constantsOf_only, namesOf]

@[simp]
theorem lookup_only (catalog : Catalog) (space name : String) :
    (catalog.only space).lookup space name = catalog.lookup space name := by
  unfold only constantsOf lookup
  rw [List.find?_filter]
  apply congrArg (fun test => List.find? test catalog.constants)
  funext constant
  by_cases hspace : constant.space = space
  · simp [hspace]
  · simp [hspace]

theorem namesOf_congr (honly : first.only space = second.only space) :
    namesOf first space = namesOf second space := by
  rw [← namesOf_only first, honly, namesOf_only]

/-! ## Registering -/

/-- The full name is read as a name of the space. -/
def NamedIn (space fullName : String) : Prop :=
  ∃ name, QualifiedName.ofText? fullName = some ⟨space, name⟩

theorem register_only (catalog : Catalog) (space name description : String) :
    ((catalog.only space).register space name description).1 =
      (catalog.register space name description).1.only space := by
  unfold register
  rw [lookup_only]
  cases catalog.lookup space name with
  | some constant => rfl
  | none => simp [only, constantsOf]

theorem only_registerFull_of_not (hother : ¬ NamedIn space fullName)
    (description : String) :
    (catalog.registerFull fullName description).1.only space = catalog.only space := by
  rcases registerFull_cases catalog fullName description with
    hsame | ⟨qualified, hread, -, hnew⟩
  · rw [hsame]
  · have hspace : qualified.space ≠ space := by
      rintro rfl
      exact hother ⟨qualified.name, hread⟩
    rw [hnew]
    simp [only, constantsOf, hspace]

theorem only_registerFull_congr (honly : first.only space = second.only space)
    (fullName description : String) :
    (first.registerFull fullName description).1.only space =
      (second.registerFull fullName description).1.only space := by
  by_cases hnamed : NamedIn space fullName
  · obtain ⟨name, hread⟩ := hnamed
    unfold registerFull
    simp only [hread]
    rw [← register_only, ← register_only, honly]
  · rw [only_registerFull_of_not hnamed, only_registerFull_of_not hnamed, honly]

/-! ## Giving primitive types -/

theorem only_setPrimitive (catalog : Catalog) (fullName : String) (primitive : Primitive)
    (space : String) :
    (catalog.setPrimitive fullName primitive).only space =
      (catalog.only space).setPrimitive fullName primitive := by
  unfold setPrimitive
  cases QualifiedName.ofText? fullName with
  | none => rfl
  | some qualified =>
      unfold only constantsOf
      simp only [Catalog.mk.injEq]
      rw [List.filter_map]
      congr 1
      apply List.filter_congr
      intro constant _
      rw [Function.comp_apply]
      split <;> rfl

theorem only_setPrimitive_of_not (hother : ¬ NamedIn space fullName)
    (primitive : Primitive) :
    (catalog.setPrimitive fullName primitive).only space = catalog.only space := by
  rw [only_setPrimitive]
  unfold setPrimitive
  cases hread : QualifiedName.ofText? fullName with
  | none => rfl
  | some qualified =>
      have hsame : ∀ constant ∈ (catalog.only space).constants,
          (if constant.space = qualified.space ∧ constant.name = qualified.name ∧
              constant.primitive = .integer then
            { constant with primitive }
          else constant) = constant := by
        intro constant hconstant
        have hspace : constant.space = space := by
          simpa using (List.mem_filter.mp hconstant).2
        rw [if_neg]
        rintro ⟨hkey, -, -⟩
        apply hother
        refine ⟨qualified.name, ?_⟩
        rw [hread, ← hspace, hkey]
      simp only
      rw [List.map_congr_left hsame, List.map_id']

end Catalog

namespace Registry

/-- What a registry holds of a space. -/
def only (registry : Registry) (space : String) : Registry :=
  ⟨registry.catalog.only space, registry.ledger.only space⟩

theorem only_eq_iff {first second : Registry} {space : String} :
    first.only space = second.only space ↔
      first.catalog.only space = second.catalog.only space ∧
        first.ledger.only space = second.ledger.only space := by
  rw [only, only, Registry.mk.injEq]

end Registry
end ApiStubs
