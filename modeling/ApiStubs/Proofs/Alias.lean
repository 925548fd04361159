import ApiStubs.Alias

/-!
# Members of an alias

New members go behind the old ones, each once, and no member is ever lost.
-/

namespace ApiStubs
namespace Alias

@[simp]
theorem joinMembers_nil (members : List String) : joinMembers members [] = members := rfl

@[simp]
theorem joinMembers_cons (members : List String) (first : String) (new : List String) :
    joinMembers members (first :: new) =
      joinMembers (if first ∈ members then members else members ++ [first]) new := rfl

@[simp]
theorem mem_joinMembers {members new : List String} {member : String} :
    member ∈ joinMembers members new ↔ member ∈ members ∨ member ∈ new := by
  induction new generalizing members with
  | nil => simp
  | cons first new ih =>
      rw [joinMembers_cons, ih]
      by_cases hfirst : first ∈ members
      · rw [if_pos hfirst, List.mem_cons]
        constructor
        · rintro (hold | hnew)
          · exact .inl hold
          · exact .inr (.inr hnew)
        · rintro (hold | rfl | hnew)
          · exact .inl hold
          · exact .inl hfirst
          · exact .inr hnew
      · rw [if_neg hfirst, List.mem_append, List.mem_singleton, List.mem_cons]
        exact or_assoc

theorem nodup_joinMembers {members : List String} (hnodup : members.Nodup)
    (new : List String) : (joinMembers members new).Nodup := by
  induction new generalizing members with
  | nil => exact hnodup
  | cons first new ih =>
      rw [joinMembers_cons]
      apply ih
      split
      next => exact hnodup
      next hfirst =>
        rw [List.nodup_append]
        refine ⟨hnodup, by simp, ?_⟩
        intro member hmember other hother
        rw [List.mem_singleton] at hother
        subst hother
        rintro rfl
        exact hfirst hmember

theorem prefix_joinMembers (members new : List String) :
    members <+: joinMembers members new := by
  induction new generalizing members with
  | nil => simp
  | cons first new ih =>
      rw [joinMembers_cons]
      split
      next => exact ih members
      next => exact (List.prefix_append members [first]).trans (ih _)

theorem joinMembers_of_subset {members new : List String} (hsubset : new ⊆ members) :
    joinMembers members new = members := by
  induction new with
  | nil => rfl
  | cons first new ih =>
      have hfirst : first ∈ members := hsubset List.mem_cons_self
      have hrest : new ⊆ members := fun _ hmem => hsubset (List.mem_cons_of_mem first hmem)
      rw [joinMembers_cons, if_pos hfirst, ih hrest]

end Alias
end ApiStubs
