import ApiStubs.Proofs.Keyed
import ApiStubs.Proofs.Reference.Fold
import Mathlib.Data.List.Induction

/-!
# The declared types with aliases among them

The types are rebuilt from left to right.  A type that stays goes to the end; an alias goes
there only if it is not in the list yet.  So the types that stay keep their order, and the
list differs from them by aliases that are put in once.
-/

namespace ApiStubs
namespace Reference

variable {aliases kept core : List String} {type : String}

/-! ## Aliases put into a list -/

/-- The last list has the elements of the other two, each of them in its order. -/
inductive Interleaves : List String → List String → List String → Prop where
  | nil : Interleaves [] [] []
  | keep {kept added all : List String} (type : String) :
      Interleaves kept added all → Interleaves (kept ++ [type]) added (all ++ [type])
  | add {kept added all : List String} (type : String) :
      Interleaves kept added all → Interleaves kept (added ++ [type]) (all ++ [type])

theorem Interleaves.mem_iff {added all : List String} (hall : Interleaves kept added all) :
    type ∈ all ↔ type ∈ kept ∨ type ∈ added := by
  induction hall with
  | nil => simp
  | keep last _ ih => simp only [List.mem_append, ih, or_right_comm]
  | add last _ ih => simp only [List.mem_append, ih, or_assoc]

/-- The kept types in their order, with some of the aliases put in, each at most once. -/
def Inserted (aliases kept core : List String) : Prop :=
  ∃ added, Interleaves kept added core ∧ added.Nodup ∧ added ⊆ aliases

namespace Inserted

theorem nil (aliases : List String) : Inserted aliases [] [] :=
  ⟨[], .nil, List.nodup_nil, List.nil_subset aliases⟩

theorem mem (hcore : Inserted aliases kept core) (htype : type ∈ core) :
    type ∈ kept ∨ type ∈ aliases := by
  obtain ⟨added, hall, -, hsubset⟩ := hcore
  exact (hall.mem_iff.mp htype).imp_right (fun hadded => hsubset hadded)

theorem keep (hcore : Inserted aliases kept core) (type : String) :
    Inserted aliases (kept ++ [type]) (core ++ [type]) := by
  obtain ⟨added, hall, hnodup, hsubset⟩ := hcore
  exact ⟨added, hall.keep type, hnodup, hsubset⟩

theorem pushNew (hcore : Inserted aliases kept core) (halias : type ∈ aliases) :
    Inserted aliases kept (pushNew core type) := by
  unfold Reference.pushNew
  split
  next => exact hcore
  next hnew =>
    obtain ⟨added, hall, hnodup, hsubset⟩ := hcore
    refine ⟨added ++ [type], hall.add type, ?_, ?_⟩
    · -- An alias that was put in before would be in the list.
      have hunused : type ∉ added := fun hadded => hnew (hall.mem_iff.mpr (.inr hadded))
      rw [← List.concat_eq_append]
      exact hnodup.concat hunused
    · exact List.append_subset.mpr ⟨hsubset, List.cons_subset.mpr ⟨halias, List.nil_subset _⟩⟩

theorem foldl_pushNew (hcore : Inserted aliases kept core) {new : List String}
    (hnew : new ⊆ aliases) : Inserted aliases kept (new.foldl Reference.pushNew core) :=
  List.foldlRecOn (motive := Inserted aliases kept) new _ hcore
    (fun _ hstep _ htype => hstep.pushNew (hnew htype))

end Inserted

/-! ## The types that come back -/

/-- The types before a declared type, followed by it or by the alias in its place. -/
def replaceNext (substitution : Substitution) (types : List String) (type : String) :
    List String :=
  match substitution.lookup type with
  | none => types ++ [type]
  | some a => pushNew types a

theorem rebuild_eq (substitution : Substitution) (declared : List String) :
    rebuild substitution declared =
      (declared.filter (· != constantPlaceholder)).foldl (replaceNext substitution) [] := rfl

/-- The alias in the place of a constant. -/
def Substitution.replacement? (substitution : Substitution) (fullName : String) :
    Option String :=
  substitution.lookup fullName

/-- The declared types that stay: neither the placeholder nor a replaced constant. -/
def keptOf (replaced : String → Option String) (declared : List String) : List String :=
  declared.filter (fun type => type ≠ constantPlaceholder ∧ replaced type = none)

theorem inserted_foldl_replaceNext (substitution : Substitution) (types : List String) :
    Inserted substitution.produced
      (types.filter (fun type => substitution.lookup type = none))
      (types.foldl (replaceNext substitution) []) := by
  -- What a type does depends on the types before it, so the last one is taken off.
  induction types using List.reverseRecOn with
  | nil => exact Inserted.nil _
  | append_singleton types type ih =>
      rw [List.filter_append, List.foldl_append, List.foldl_cons, List.foldl_nil, replaceNext]
      cases hlookup : substitution.lookup type with
      | none =>
          rw [List.filter_cons_of_pos (by simpa using hlookup), List.filter_nil]
          exact ih.keep type
      | some a =>
          rw [List.filter_cons_of_neg (by simp [hlookup]), List.filter_nil, List.append_nil]
          exact ih.pushNew (Substitution.mem_produced.mpr ⟨type, Keyed.mem_of_lookup hlookup⟩)

theorem inserted_rebuild (substitution : Substitution) (declared : List String) :
    Inserted substitution.produced (keptOf substitution.replacement? declared)
      (rebuild substitution declared) := by
  have hkept : keptOf substitution.replacement? declared =
      (declared.filter (· != constantPlaceholder)).filter
        (fun type => substitution.lookup type = none) := by
    rw [keptOf, List.filter_filter]
    apply List.filter_congr
    intro type _
    rw [Bool.decide_and, Bool.and_comm, decide_not]
    rfl
  rw [rebuild_eq, hkept]
  exact inserted_foldl_replaceNext substitution _

/-- The aliases that stand nowhere among the types yet come behind them. -/
theorem inserted_types (substitution : Substitution) (declared : List String) :
    Inserted substitution.produced (keptOf substitution.replacement? declared)
      (substitution.produced.foldl pushNew (rebuild substitution declared)) :=
  (inserted_rebuild substitution declared).foldl_pushNew (List.Subset.refl _)

end Reference
end ApiStubs
