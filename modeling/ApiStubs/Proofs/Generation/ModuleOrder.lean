import ApiStubs.Proofs.ApiModule
import ApiStubs.Proofs.Generation
import ApiStubs.Proofs.Text.UnitOrder

/-!
# The order of the modules

Merging and sorting restore one order before anything that depends on order
happens.  Only the order of modules that share a namespace is left, and a
rearrangement that keeps it changes nothing about a run.
-/

namespace ApiStubs
namespace Generation

/-- The same modules, those of each namespace in the same order. -/
structure Rearranged (left right : List ApiModule) : Prop where
  perm : left.Perm right
  sameWithin : ∀ space,
    left.filter (fun m => m.derivedSpace = space) =
      right.filter (fun m => m.derivedSpace = space)

theorem merge_perm_of_rearranged {left right : List ApiModule}
    (hrearranged : Rearranged left right) :
    (ApiModule.merge left).Perm (ApiModule.merge right) := by
  apply Keyed.perm_of_find?_eq (ApiModule.distinctSpaces_merge left)
    (ApiModule.distinctSpaces_merge right)
  intro space
  have hleft := ApiModule.find?_merge left space
  rw [hrearranged.sameWithin space, ← ApiModule.find?_merge right space] at hleft
  exact hleft

theorem order_eq_of_rearranged {left right : List ApiModule}
    (hrearranged : Rearranged left right) : order left = order right := by
  apply Text.mergeSort_key_eq_of_perm ApiModule.space
    (merge_perm_of_rearranged hrearranged)
  intro a ha b hb hspace
  exact List.inj_on_of_nodup_map (ApiModule.distinctSpaces_merge left) ha hb hspace

theorem mem_order {modules : List ApiModule} {merged : ApiModule} :
    merged ∈ order modules ↔ merged ∈ ApiModule.merge modules :=
  List.mem_mergeSort

theorem space_of_mem_order {modules : List ApiModule} {merged : ApiModule}
    (hmerged : merged ∈ order modules) :
    merged.space ∈ modules.map (·.derivedSpace) :=
  ApiModule.mem_spaces_merge.mp (List.mem_map_of_mem (mem_order.mp hmerged))

theorem nodup_spaces_order (modules : List ApiModule) :
    ((order modules).map (·.space)).Nodup := by
  have hperm := (List.mergeSort_perm (ApiModule.merge modules)
    (fun a b => Text.unitsLE a.space b.space)).map ApiModule.space
  exact hperm.nodup_iff.mpr (ApiModule.distinctSpaces_merge modules)

theorem nodup_spaces_of_generate {modules : List ApiModule} {options : Options}
    {units : List StubUnit} (hunits : (generate modules options).result = .ok units) :
    (units.map (·.space)).Nodup := by
  rw [spaces_of_generate_eq_ok hunits]
  exact (nodup_spaces_order modules).sublist (List.filter_sublist.map _)

/-- Merging and sorting lose no element and add none. -/
theorem exists_mem_elements_order {modules : List ApiModule} {element : Element} :
    (∃ merged ∈ order modules, element ∈ merged.elements) ↔
      ∃ m ∈ modules, element ∈ m.elements := by
  constructor
  · rintro ⟨merged, hmerged, helement⟩
    obtain ⟨m, hm, -, helement⟩ :=
      (ApiModule.mem_elements_of_mem_merge (mem_order.mp hmerged)).mp helement
    exact ⟨m, hm, helement⟩
  · rintro ⟨m, hm, helement⟩
    have hspace : m.derivedSpace ∈ (ApiModule.merge modules).map (·.space) :=
      ApiModule.mem_spaces_merge.mpr (List.mem_map_of_mem hm)
    obtain ⟨merged, hmerged, hspace⟩ := List.mem_map.mp hspace
    exact ⟨merged, mem_order.mpr hmerged,
      (ApiModule.mem_elements_of_mem_merge hmerged).mpr ⟨m, hm, hspace.symm, helement⟩⟩

/-- A module of a new namespace takes a place among the ordered ones. -/
theorem order_insert {m : ApiModule} {before after : List ApiModule}
    (hnew : m.derivedSpace ∉ (before ++ after).map (·.derivedSpace)) :
    ∃ first last, order (before ++ m :: after) =
        first ++ { m with space := m.derivedSpace } :: last ∧
      order (before ++ after) = first ++ last := by
  have htrans : ∀ a b c : ApiModule, Text.unitsLE a.space b.space = true →
      Text.unitsLE b.space c.space = true → Text.unitsLE a.space c.space = true :=
    fun a b c => Text.unitsLE_trans a.space b.space c.space
  have htotal : ∀ a b : ApiModule,
      (Text.unitsLE a.space b.space || Text.unitsLE b.space a.space) = true :=
    fun a b => Text.unitsLE_total a.space b.space
  obtain ⟨first, last, hinserted, hothers, -⟩ := List.mergeSort_cons htrans htotal
    { m with space := m.derivedSpace } (ApiModule.merge (before ++ after))
  refine ⟨first, last, ?_, hothers⟩
  rw [← hinserted]
  apply Text.mergeSort_key_eq_of_perm ApiModule.space (ApiModule.merge_insert_perm hnew)
  intro a ha b hb hspace
  exact List.inj_on_of_nodup_map (ApiModule.distinctSpaces_merge _) ha hb hspace

/-- A run does not depend on the order of modules of different namespaces: the
stubs, what is reported and how a run fails are the same. -/
theorem generate_eq_of_rearranged {left right : List ApiModule}
    (hrearranged : Rearranged left right) (options : Options) :
    generate left options = generate right options := by
  unfold generate
  rw [order_eq_of_rearranged hrearranged, hrearranged.perm.length_eq]

/-- A module of another namespace moves before two modules of one namespace, the
first of which takes it from its element, and registers a constant of theirs. -/
theorem generate_eq_of_rearranged_between :
    let first : ApiModule := ⟨"", "GUI", "", [.constant "gui.MODE_ON" (some "on")]⟩
    let other : ApiModule := ⟨"net", "Net", "", [.constant "gui.MODE_ON" none]⟩
    let second : ApiModule := ⟨"gui", "GUI", "More", [.variable "gui.depth" none]⟩
    Rearranged [first, other, second] [other, first, second] ∧
      generate [first, other, second] { settings := {}, version := "1.0" } =
        generate [other, first, second] { settings := {}, version := "1.0" } := by
  intro first other second
  have hfirst : first.derivedSpace = "gui" := by decide
  have hother : other.derivedSpace = "net" := by decide
  have hsecond : second.derivedSpace = "gui" := by decide
  have hrearranged : Rearranged [first, other, second] [other, first, second] := by
    refine ⟨List.Perm.swap other first [second], ?_⟩
    intro space
    by_cases hgui : "gui" = space
    · subst hgui
      simp [hfirst, hother, hsecond]
    · simp [List.filter_cons, hfirst, hgui]
  exact ⟨hrearranged, generate_eq_of_rearranged hrearranged _⟩

end Generation
end ApiStubs
