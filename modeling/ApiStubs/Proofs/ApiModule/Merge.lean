import ApiStubs.Proofs.ApiModule

/-!
# Modules merged at once and in portions

Merging is known from two facts: which namespaces there are, in which order, and what the
modules of one namespace come to.  A merged module names its namespace, or derives the
empty one again, because its first element comes from a module that derived it.  So merged
modules are left as they are, and more modules can be merged into them.
-/

namespace ApiStubs
namespace ApiModule

variable {modules left right : List ApiModule}

/-- One module for each namespace, where the namespace first appears, made of all modules
of its namespace. -/
structure IsMerge (modules merged : List ApiModule) : Prop where
  spaces : merged.map (·.space) = (modules.map (·.derivedSpace)).eraseDups
  joins : ∀ m ∈ merged, ∃ first later,
    modules.filter (fun source => source.derivedSpace = m.space) = first :: later ∧
      Joins first later m

theorem Joins.unique {first a b : ApiModule} {later : List ApiModule}
    (ha : Joins first later a) (hb : Joins first later b) (hspace : a.space = b.space) :
    a = b := by
  have hbrief := ha.brief.trans hb.brief.symm
  have hdescription := ha.description.trans hb.description.symm
  have helements := ha.elements.trans hb.elements.symm
  cases a
  cases b
  simp only at hspace hbrief hdescription helements
  rw [hspace, hbrief, hdescription, helements]

theorem IsMerge.unique (hleft : IsMerge modules left) (hright : IsMerge modules right) :
    left = right := by
  apply Keyed.eq_of_map_eq (hleft.spaces.trans hright.spaces.symm)
  intro a ha b hb hspace
  obtain ⟨first, later, hsources, hjoins⟩ := hleft.joins a ha
  obtain ⟨first', later', hsources', hjoins'⟩ := hright.joins b hb
  rw [← hspace, hsources, List.cons.injEq] at hsources'
  obtain ⟨rfl, rfl⟩ := hsources'
  exact hjoins.unique hjoins' hspace

/-- Merging is told by which namespaces there are and what each of them is made of. -/
theorem eq_merge_iff (modules merged : List ApiModule) :
    merged = merge modules ↔ IsMerge modules merged := by
  have hmerge : IsMerge modules (merge modules) := {
    spaces := map_space_merge modules
    joins := fun _ hm => joins_of_mem_merge hm }
  constructor
  · rintro rfl
    exact hmerge
  · intro hmerged
    exact hmerged.unique hmerge

example :
    let go := ApiModule.mk "go" "Game object" "Game object" []
    let other := ApiModule.mk "" "Font" "Font" [.constant "..font.FLAG_A" none]
    let detailed := ApiModule.mk "go" "Go" "Functions of game objects" [.constant "go.A" none]
    let plain := ApiModule.mk "go" "Same" "Same" [.constant "go.B" none]
    merge [go, other, detailed, plain] =
      [⟨"go", "Game object", "Functions of game objects",
          [.constant "go.A" none, .constant "go.B" none]⟩,
        ⟨"font", "Font", "Font", [.constant "..font.FLAG_A" none]⟩] := by
  decide +kernel

/-! ## Merging in portions -/

theorem firstSegment_of_derivedSpace {m : ApiModule} {first : Element}
    (hspace : m.derivedSpace = "") (hfirst : m.elements.head? = some first) :
    firstSegment first.name = "" := by
  unfold derivedSpace at hspace
  split at hspace
  next =>
    rw [hfirst] at hspace
    exact hspace
  next hnamed => exact absurd hspace hnamed

theorem derivedSpace_of_mem_merge {merged : ApiModule} (hmerged : merged ∈ merge modules) :
    merged.derivedSpace = merged.space := by
  by_cases hspace : merged.space = ""
  · rw [derivedSpace, if_pos hspace, elements_of_mem_merge hmerged, List.head?_flatMap, hspace]
    cases hfound : List.findSome? (fun m : ApiModule => m.elements.head?)
        (modules.filter (fun m => m.derivedSpace = "")) with
    | none => rfl
    | some first =>
        -- The first element of all is the first one of a module without a namespace.
        obtain ⟨m, hm, hfirst⟩ := List.exists_of_findSome?_eq_some hfound
        have hempty : m.derivedSpace = "" := of_decide_eq_true (List.mem_filter.mp hm).2
        exact firstSegment_of_derivedSpace hempty hfirst
  · rw [derivedSpace, if_neg hspace]

theorem file_of_new {m : ApiModule} {merged : List ApiModule}
    (hnew : m.derivedSpace ∉ merged.map (·.space)) :
    file m merged = merged ++ [{ m with space := m.derivedSpace }] := by
  induction merged with
  | nil => rfl
  | cons first rest ih =>
      rw [List.map_cons, List.mem_cons, not_or] at hnew
      rw [file, if_neg (Ne.symm hnew.1), ih hnew.2, List.cons_append]

/-- Modules of different namespaces, each with its own, are merged already. -/
theorem merge_of_distinct (hdistinct : DistinctSpaces modules)
    (hown : ∀ m ∈ modules, m.derivedSpace = m.space) : merge modules = modules := by
  induction modules using List.reverseRecOn with
  | nil => rfl
  | append_singleton modules m ih =>
      unfold DistinctSpaces at hdistinct
      rw [List.map_append, List.nodup_append] at hdistinct
      have hlast : m.derivedSpace = m.space := hown m (by simp)
      have hrest : merge modules = modules :=
        ih hdistinct.1 (fun other hother => hown other (List.mem_append_left _ hother))
      have hnew : m.derivedSpace ∉ modules.map (·.space) := by
        intro hmem
        exact hdistinct.2.2 _ hmem m.space (by simp) hlast
      rw [merge_concat, hrest, file_of_new hnew, hlast]

theorem merge_merge (modules : List ApiModule) : merge (merge modules) = merge modules :=
  merge_of_distinct (distinctSpaces_merge modules) (fun _ => derivedSpace_of_mem_merge)

/-- What is merged already can stand for the modules that it is made of. -/
theorem merge_merge_append (earlier later : List ApiModule) :
    merge (merge earlier ++ later) = merge (earlier ++ later) ∧
      merge (merge earlier) = merge earlier := by
  constructor
  · rw [merge_append, merge_append, merge_merge]
  · exact merge_merge earlier

end ApiModule
end ApiStubs
