import ApiStubs.Proofs.Alias.MemberSets

/-!
# The ledger of one space

Every look-up asks for one space and every registration is made in one, so the
aliases of a space are a ledger of their own: it answers all questions about the
space, and nothing that is registered elsewhere is seen in it.
-/

namespace ApiStubs
namespace Ledger

variable {ledger first second : Ledger} {space other name : String}

/-- The aliases of a space alone, in the order of their registration. -/
def only (ledger : Ledger) (space : String) : Ledger :=
  ⟨ledger.aliases.filter (·.space = space)⟩

@[simp]
theorem get?_only (ledger : Ledger) (space name : String) :
    (ledger.only space).get? space name = ledger.get? space name := by
  unfold only get?
  rw [List.find?_filter]
  apply congrArg (fun test => List.find? test ledger.aliases)
  funext a
  by_cases hspace : a.space = space
  · simp [hspace]
  · simp [hspace]

@[simp]
theorem has_only (ledger : Ledger) (space name : String) :
    (ledger.only space).has space name = ledger.has space name := by
  rw [has, get?_only, has]

@[simp]
theorem aliasesOf_only (ledger : Ledger) (space : String) :
    (ledger.only space).aliasesOf space = ledger.aliasesOf space := by
  unfold aliasesOf only
  rw [List.filter_filter]
  simp only [Bool.and_self]

@[simp]
theorem findByMember_only (ledger : Ledger) (space fullName : String) :
    (ledger.only space).findByMember space fullName =
      ledger.findByMember space fullName := by
  rw [findByMember, aliasesOf_only, findByMember]

/-- Whether a full name is an alias is a matter of the space that it is read in. -/
theorem hasFull_congr {fullName : String}
    (honly : ∀ qualified, QualifiedName.ofText? fullName = some qualified →
      first.only qualified.space = second.only qualified.space) :
    first.hasFull fullName = second.hasFull fullName := by
  unfold hasFull
  cases hread : QualifiedName.ofText? fullName with
  | none => rfl
  | some qualified =>
      simp only
      rw [← has_only first, honly qualified hread, has_only]

/-! ## Registering -/

theorem only_addMembers (ledger : Ledger) (space name : String) (members : List String)
    (other : String) :
    (ledger.addMembers space name members).only other =
      (ledger.only other).addMembers space name members := by
  unfold only addMembers
  rw [List.filter_map]
  congr 2
  apply List.filter_congr
  intro a _
  rw [Function.comp_apply]
  split <;> rfl

/-- A registration is seen by the ledger of its space. -/
theorem register_only (ledger : Ledger) (space name : String) (members : List String) :
    (ledger.only space).register space name members =
      ((ledger.register space name members).1.only space,
        (ledger.register space name members).2) := by
  unfold register
  rw [has_only]
  by_cases hhas : ledger.has space name = true
  · simp only [hhas, if_true, only_addMembers]
  · by_cases hfew : (Alias.joinMembers [] members).length < Alias.leastMembers
    · simp only [hhas, hfew, if_true, Bool.false_eq_true, if_false]
    · simp [hhas, hfew, only]

/-- A registration is not seen by the ledger of another space. -/
theorem only_register_of_ne (hother : space ≠ other) (name : String)
    (members : List String) :
    (ledger.register space name members).1.only other = ledger.only other := by
  rcases register_cases ledger space name members with
    ⟨-, hregister⟩ | ⟨-, -, hregister⟩ | ⟨-, -, hregister⟩
  · rw [hregister, only_addMembers, addMembers]
    have hsame : ∀ a ∈ (ledger.only other).aliases,
        (if a.space = space ∧ a.name = name then
          { a with members := Alias.joinMembers a.members members }
        else a) = a := by
      intro a ha
      have hspace : a.space = other := by simpa using (List.mem_filter.mp ha).2
      rw [if_neg]
      rintro ⟨hkey, -⟩
      exact hother (hkey.symm.trans hspace)
    rw [List.map_congr_left hsame, List.map_id']
  · rw [hregister]
  · rw [hregister]
    simp [only, hother]

theorem only_enter (ledger : Ledger) (a : Alias) (space : String) :
    (ledger.enter a).only space =
      if a.space = space then (ledger.only space).enter a else ledger.only space := by
  unfold enter
  by_cases hspace : a.space = space
  · rw [if_pos hspace, ← hspace, register_only]
  · rw [if_neg hspace, only_register_of_ne hspace]

/-- Of many registrations, the ledger of a space sees its own. -/
theorem only_foldl_enter (as : List Alias) (ledger : Ledger) (space : String) :
    (as.foldl enter ledger).only space =
      (as.filter (·.space = space)).foldl enter (ledger.only space) := by
  induction as generalizing ledger with
  | nil => rfl
  | cons a as ih =>
      rw [List.foldl_cons, ih, only_enter, List.filter_cons]
      by_cases hspace : a.space = space
      · simp [hspace]
      · simp [hspace]

end Ledger
end ApiStubs
