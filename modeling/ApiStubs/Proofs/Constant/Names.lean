import ApiStubs.Proofs.Prefix.Inference

/-!
# The names that a catalog holds

Giving constants a type does not touch their names, and whether a constant is
found is a matter of the names of its space alone.
-/

namespace ApiStubs
namespace Catalog

open Prefix (namesOf)

variable {catalog : Catalog} {space name : String}

theorem registered_iff_mem_namesOf :
    catalog.Registered space name ↔ name ∈ namesOf catalog space := by
  constructor
  · rintro ⟨constant, hconstant, hspace, rfl⟩
    exact List.mem_map_of_mem (List.mem_filter.mpr ⟨hconstant, by simpa using hspace⟩)
  · exact Prefix.registered_of_mem_namesOf

theorem Distinct.nodup_namesOf (hdistinct : catalog.Distinct) (space : String) :
    (namesOf catalog space).Nodup := by
  apply List.Nodup.map_on _ (hdistinct.of_map.filter _)
  intro first hfirst second hsecond hname
  simp only [List.mem_filter, decide_eq_true_eq] at hfirst hsecond
  apply List.inj_on_of_nodup_map hdistinct hfirst.1 hsecond.1
  rw [hfirst.2, hsecond.2, hname]

/-- A change that keeps spaces and names keeps the names of every space. -/
theorem namesOf_map {change : Constant → Constant}
    (hspace : ∀ constant, (change constant).space = constant.space)
    (hname : ∀ constant, (change constant).name = constant.name) (space : String) :
    namesOf ⟨catalog.constants.map change⟩ space = namesOf catalog space := by
  have hsame : ((fun constant : Constant => decide (constant.space = space)) ∘ change) =
      fun constant => decide (constant.space = space) := by
    funext constant
    simp only [Function.comp_apply, hspace]
  unfold namesOf constantsOf
  rw [List.filter_map, hsame, List.map_map]
  apply List.map_congr_left
  intro constant _
  exact hname constant

@[simp]
theorem namesOf_setPrimitive (catalog : Catalog) (fullName : String)
    (primitive : Primitive) (space : String) :
    namesOf (catalog.setPrimitive fullName primitive) space = namesOf catalog space := by
  unfold setPrimitive
  split
  next => rfl
  next qualified _ =>
    apply namesOf_map
    · intro constant
      split <;> rfl
    · intro constant
      split <;> rfl

end Catalog
end ApiStubs
