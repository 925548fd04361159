import ApiStubs.ApiModule
import ApiStubs.Proofs.Keyed
import Mathlib.Data.List.Induction

/-!
# Merging modules

The merged module of a namespace is made of the modules of that namespace alone,
in their order, and no namespace has two of them.
-/

namespace ApiStubs
namespace ApiModule

/-- The merged module of a namespace. -/
def find? (space : String) (merged : List ApiModule) : Option ApiModule :=
  List.find? (fun m => m.space = space) merged

/-- A module after the merged one of its namespace, or as the first of it. -/
def absorbInto (m : ApiModule) : Option ApiModule → ApiModule
  | none => { m with space := m.derivedSpace }
  | some first => first.absorb m

theorem find?_file (m : ApiModule) (merged : List ApiModule) (space : String) :
    find? space (file m merged) =
      if m.derivedSpace = space then some (m.absorbInto (find? space merged))
      else find? space merged := by
  unfold find?
  induction merged with
  | nil =>
      rw [file, List.find?_singleton]
      simp [absorbInto]
  | cons first rest ih =>
      rw [file]
      by_cases hfirst : first.space = m.derivedSpace
      · rw [if_pos hfirst, List.find?_cons, List.find?_cons]
        have habsorb : (first.absorb m).space = first.space := rfl
        rw [habsorb, hfirst]
        by_cases hspace : m.derivedSpace = space
        · simp [hspace, absorbInto]
        · simp [hspace]
      · rw [if_neg hfirst, List.find?_cons, List.find?_cons, ih]
        by_cases hspace : first.space = space
        · have hother : m.derivedSpace ≠ space := fun h => hfirst (hspace.trans h.symm)
          simp [hspace, hother]
        · simp [hspace]

/-- The modules of one namespace, merged. -/
def absorbAll (modules : List ApiModule) : Option ApiModule :=
  modules.foldl (fun merged? m => some (m.absorbInto merged?)) none

theorem find?_merge (modules : List ApiModule) (space : String) :
    find? space (merge modules) =
      absorbAll (modules.filter (fun m => m.derivedSpace = space)) := by
  have hfold : ∀ merged : List ApiModule,
      find? space (modules.foldl (fun merged m => file m merged) merged) =
        (modules.filter (fun m => m.derivedSpace = space)).foldl
          (fun merged? m => some (m.absorbInto merged?)) (find? space merged) := by
    induction modules with
    | nil => exact fun _ => rfl
    | cons m modules ih =>
        intro merged
        rw [List.foldl_cons, ih, find?_file, List.filter_cons]
        by_cases hspace : m.derivedSpace = space
        · simp [hspace]
        · simp [hspace]
  exact hfold []

/-- No two modules have the same namespace. -/
def DistinctSpaces (modules : List ApiModule) : Prop :=
  (modules.map (·.space)).Nodup

theorem map_space_file (m : ApiModule) (merged : List ApiModule) :
    (file m merged).map (·.space) =
      if m.derivedSpace ∈ merged.map (·.space) then merged.map (·.space)
      else merged.map (·.space) ++ [m.derivedSpace] := by
  induction merged with
  | nil => rfl
  | cons first rest ih =>
      rw [file]
      by_cases hfirst : first.space = m.derivedSpace
      · simp [hfirst, absorb]
      · rw [if_neg hfirst, List.map_cons, ih]
        have hother : m.derivedSpace ≠ first.space := Ne.symm hfirst
        by_cases hrest : m.derivedSpace ∈ rest.map (·.space)
        · have hall : m.derivedSpace ∈ (first :: rest).map (·.space) :=
            List.mem_cons_of_mem _ hrest
          rw [if_pos hrest, if_pos hall, List.map_cons]
        · have hall : m.derivedSpace ∉ (first :: rest).map (·.space) := by
            rw [List.map_cons, List.mem_cons, not_or]
            exact ⟨hother, hrest⟩
          rw [if_neg hrest, if_neg hall, List.map_cons, List.cons_append]

theorem merge_append (earlier later : List ApiModule) :
    merge (earlier ++ later) = later.foldl (fun merged m => file m merged) (merge earlier) := by
  rw [merge, List.foldl_append]
  rfl

theorem merge_concat (modules : List ApiModule) (m : ApiModule) :
    merge (modules ++ [m]) = file m (merge modules) :=
  merge_append modules [m]

/-- The namespaces of merged modules, each where it comes first. -/
theorem map_space_merge (modules : List ApiModule) :
    (merge modules).map (·.space) = (modules.map (·.derivedSpace)).eraseDups := by
  induction modules using List.reverseRecOn with
  | nil => rfl
  | append_singleton modules m ih =>
      rw [merge_concat, map_space_file, ih, List.map_append, List.map_singleton,
        Keyed.eraseDups_concat]
      simp only [List.mem_eraseDups]

theorem distinctSpaces_merge (modules : List ApiModule) : DistinctSpaces (merge modules) := by
  unfold DistinctSpaces
  rw [map_space_merge]
  exact Keyed.nodup_eraseDups _

theorem mem_spaces_merge {modules : List ApiModule} {space : String} :
    space ∈ (merge modules).map (·.space) ↔ space ∈ modules.map (·.derivedSpace) := by
  rw [map_space_merge, List.mem_eraseDups]

/-! ## What a merged module is made of -/

/-- The description of the last module that says more than its title. -/
def lastDescription? (modules : List ApiModule) : Option String :=
  (modules.filter (fun m => m.description ≠ m.brief)).getLast?.map (·.description)

theorem lastDescription?_concat (modules : List ApiModule) (m : ApiModule) :
    lastDescription? (modules ++ [m]) =
      if m.description = m.brief then lastDescription? modules else some m.description := by
  unfold lastDescription?
  rw [List.filter_append]
  by_cases hsame : m.description = m.brief
  · simp [hsame]
  · simp [hsame]

/-- What the first module of a namespace and the later ones come to. -/
structure Joins (first : ApiModule) (later : List ApiModule) (merged : ApiModule) : Prop where
  brief : merged.brief = first.brief
  description : merged.description = (lastDescription? later).getD first.description
  elements : merged.elements = (first :: later).flatMap (·.elements)

theorem Joins.absorb {first merged : ApiModule} {later : List ApiModule}
    (hjoins : Joins first later merged) (m : ApiModule) :
    Joins first (later ++ [m]) (merged.absorb m) where
  brief := hjoins.brief
  description := by
    rw [lastDescription?_concat, ApiModule.absorb]
    split
    next => exact hjoins.description
    next => rfl
  elements := by
    rw [← List.cons_append, List.flatMap_append, ← hjoins.elements, List.flatMap_singleton]
    rfl

theorem joins_absorbAll (first : ApiModule) (later : List ApiModule) :
    ∃ merged, absorbAll (first :: later) = some merged ∧ Joins first later merged := by
  induction later using List.reverseRecOn with
  | nil => exact ⟨_, rfl, rfl, rfl, by simp [absorbInto]⟩
  | append_singleton later m ih =>
      obtain ⟨merged, hmerged, hjoins⟩ := ih
      refine ⟨merged.absorb m, ?_, hjoins.absorb m⟩
      rw [absorbAll, ← List.cons_append, List.foldl_append, ← absorbAll, hmerged]
      rfl

/-- A merged module is what the modules of its namespace come to. -/
theorem joins_of_mem_merge {modules : List ApiModule} {merged : ApiModule}
    (hmerged : merged ∈ merge modules) :
    ∃ first later, modules.filter (fun m => m.derivedSpace = merged.space) = first :: later ∧
      Joins first later merged := by
  have hfind : find? merged.space (merge modules) = some merged :=
    (Keyed.find?_eq_some_iff (distinctSpaces_merge modules)).mpr ⟨hmerged, rfl⟩
  rw [find?_merge] at hfind
  cases hsources : modules.filter (fun m => m.derivedSpace = merged.space) with
  | nil =>
      rw [hsources] at hfind
      contradiction
  | cons first later =>
      obtain ⟨joined, hjoined, hjoins⟩ := joins_absorbAll first later
      rw [hsources, hjoined, Option.some.injEq] at hfind
      subst hfind
      exact ⟨first, later, rfl, hjoins⟩

/-- A merged module has the elements of all modules of its namespace, in their order. -/
theorem elements_of_mem_merge {modules : List ApiModule} {merged : ApiModule}
    (hmerged : merged ∈ merge modules) :
    merged.elements =
      (modules.filter (fun m => m.derivedSpace = merged.space)).flatMap (·.elements) := by
  obtain ⟨first, later, hsources, hjoins⟩ := joins_of_mem_merge hmerged
  rw [hsources, hjoins.elements]

theorem mem_elements_of_mem_merge {modules : List ApiModule} {merged : ApiModule}
    (hmerged : merged ∈ merge modules) {element : Element} :
    element ∈ merged.elements ↔
      ∃ m ∈ modules, m.derivedSpace = merged.space ∧ element ∈ m.elements := by
  rw [elements_of_mem_merge hmerged]
  simp only [List.mem_flatMap, List.mem_filter, decide_eq_true_eq, and_assoc]

/-- A module of a new namespace is merged with no other one. -/
theorem merge_insert_perm {m : ApiModule} {before after : List ApiModule}
    (hnew : m.derivedSpace ∉ (before ++ after).map (·.derivedSpace)) :
    (merge (before ++ m :: after)).Perm
      ({ m with space := m.derivedSpace } :: merge (before ++ after)) := by
  have hother : ∀ other ∈ before ++ after, other.derivedSpace ≠ m.derivedSpace := by
    intro other hmem hspace
    exact hnew (List.mem_map.mpr ⟨other, hmem, hspace⟩)
  apply Keyed.perm_of_find?_eq (distinctSpaces_merge (before ++ m :: after))
  · rw [List.map_cons, List.nodup_cons, mem_spaces_merge]
    exact ⟨hnew, distinctSpaces_merge (before ++ after)⟩
  · intro space
    have hinserted := find?_merge (before ++ m :: after) space
    have hothers := find?_merge (before ++ after) space
    unfold find? at hinserted hothers
    rw [hinserted, List.find?_cons, List.filter_append, List.filter_cons]
    by_cases hspace : m.derivedSpace = space
    · have hnone : ∀ modules ⊆ before ++ after,
          modules.filter (fun other => other.derivedSpace = space) = [] := by
        intro modules hsubset
        rw [List.filter_eq_nil_iff]
        intro other hmem
        simpa [← hspace] using hother other (hsubset hmem)
      rw [hnone before (List.subset_append_left _ _),
        hnone after (List.subset_append_right _ _)]
      simp [hspace, absorbAll, absorbInto]
    · simp only [hspace, decide_false, Bool.false_eq_true, if_false]
      rw [hothers, List.filter_append]

end ApiModule
end ApiStubs
