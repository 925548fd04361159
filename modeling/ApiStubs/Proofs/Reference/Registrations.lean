import ApiStubs.Proofs.Alias.MemberSets
import ApiStubs.Proofs.Reference.Resolution
import ApiStubs.Proofs.Reference.Scope

/-!
# The registrations of a request

Folding a request registers an alias for each space whose names have a common run.
Which aliases these are is a matter of the names in the catalog, and folding leaves
these as they are, so a request registers the same aliases wherever it stands in a
sequence.  Each of them has two different members, so it is never refused, and the
order of the requests does not matter to the sets of members in the end.
-/

namespace ApiStubs
namespace Reference

open Prefix (namesOf)

/-- The names that a request refers to, space by space. -/
def groupsOf (catalog : Catalog) (request : Request) : List (String × List String) :=
  bySpace (recorded catalog (request.referred catalog))

/-- The alias that the names of a space call for. -/
def registrationOf (group : String × List String) : Option Alias :=
  (runOf group.2).map (fun run => ⟨group.1, run, group.2.map (qualify group.1)⟩)

/-- The aliases that a request registers, in the order of their spaces. -/
def registrationsOf (catalog : Catalog) (request : Request) : List Alias :=
  (bySpace (recorded catalog (request.referred catalog))).filterMap registrationOf

theorem foldSpace_ledger (state : Ledger × Substitution) (group : String × List String) :
    (foldSpace state group).1 =
      match registrationOf group with
      | some a => state.1.enter a
      | none => state.1 := by
  obtain ⟨ledger, substitution⟩ := state
  obtain ⟨space, names⟩ := group
  unfold foldSpace registrationOf
  simp only
  cases runOf names with
  | none => rfl
  | some run =>
      simp only [Option.map_some, Ledger.enter]
      cases ledger.register space run (names.map (qualify space)) with
      | mk reached accepted => cases accepted <;> rfl

theorem foldl_foldSpace_ledger (groups : List (String × List String))
    (state : Ledger × Substitution) :
    (groups.foldl foldSpace state).1 =
      (groups.filterMap registrationOf).foldl Ledger.enter state.1 := by
  induction groups generalizing state with
  | nil => rfl
  | cons group groups ih =>
      rw [List.foldl_cons, ih, foldSpace_ledger, List.filterMap_cons]
      cases registrationOf group <;> rfl

theorem resolve_ledger (registry : Registry) (request : Request) :
    (resolve registry request).1 =
      (registrationsOf registry.catalog request).foldl Ledger.enter registry.ledger :=
  foldl_foldSpace_ledger _ _

/-! ## Registrations are never refused -/

theorem bySpace_nodup {names : List QualifiedName} (hnodup : names.Nodup)
    {group : String × List String} (hgroup : group ∈ bySpace names) : group.2.Nodup := by
  obtain ⟨space, -, rfl⟩ := List.mem_map.mp hgroup
  apply List.Nodup.map_on _ (hnodup.filter _)
  intro a ha b hb hname
  have haSpace : a.space = space := by simpa using (List.mem_filter.mp ha).2
  have hbSpace : b.space = space := by simpa using (List.mem_filter.mp hb).2
  cases a
  cases b
  simp_all

theorem nodup_of_mem_groupsOf {catalog : Catalog} {request : Request}
    {group : String × List String}
    (hgroup : group ∈ groupsOf catalog request) : group.2.Nodup :=
  bySpace_nodup (Keyed.nodup_eraseDups _) hgroup

theorem many_of_registrationOf {group : String × List String} (hnodup : group.2.Nodup)
    {a : Alias} (hregistration : registrationOf group = some a) : Alias.Many a.members := by
  obtain ⟨run, hrun, rfl⟩ := Option.map_eq_some_iff.mp hregistration
  apply Alias.many_of_nodup
  · exact hnodup.map (fun _ _ => qualify_right_injective)
  · rw [List.length_map]
    unfold runOf at hrun
    split at hrun
    next => contradiction
    next hlength => exact Nat.le_of_not_lt hlength

theorem many_of_mem_registrationsOf {catalog : Catalog} {request : Request} {a : Alias}
    (ha : a ∈ registrationsOf catalog request) : Alias.Many a.members := by
  obtain ⟨group, hgroup, hregistration⟩ := List.mem_filterMap.mp ha
  exact many_of_registrationOf (nodup_of_mem_groupsOf hgroup) hregistration

/-! ## Registrations do not depend on earlier requests -/

theorem namesOf_retypeAll (primitive : Primitive) (substitution : Substitution)
    (catalog : Catalog) (space : String) :
    namesOf (retypeAll primitive substitution catalog) space = namesOf catalog space := by
  induction substitution generalizing catalog with
  | nil => rfl
  | cons pair rest ih => rw [retypeAll_cons, ih, Catalog.namesOf_setPrimitive]

theorem namesOf_fold (registry : Registry) (request : Request) (space : String) :
    namesOf (fold registry request).1.catalog space = namesOf registry.catalog space := by
  rw [fold_registry]
  exact namesOf_retypeAll _ _ _ space

theorem registered_fold_iff {registry : Registry} {request : Request} {space name : String} :
    (fold registry request).1.catalog.Registered space name ↔
      registry.catalog.Registered space name := by
  rw [Catalog.registered_iff_mem_namesOf, Catalog.registered_iff_mem_namesOf, namesOf_fold]

theorem namesOf_foldAll (registry : Registry) (requests : List Request)
    (space : String) :
    namesOf (foldAll registry requests).catalog space =
      namesOf registry.catalog space := by
  induction requests generalizing registry with
  | nil => rfl
  | cons request rest ih => rw [foldAll_cons, ih, namesOf_fold]

theorem groupsOf_congr {first second : Catalog}
    (hnames : ∀ space, namesOf first space = namesOf second space) (request : Request) :
    groupsOf first request = groupsOf second request := by
  have hreferred : request.referred first = request.referred second :=
    referred_congr (fun space _ => hnames space)
  have hrecorded : recorded first (request.referred second) =
      recorded second (request.referred second) :=
    recorded_congr (fun _ _ qualified _ => hnames qualified.space)
  rw [groupsOf, groupsOf, hreferred, hrecorded]

theorem registrationsOf_congr {first second : Catalog}
    (hnames : ∀ space, namesOf first space = namesOf second space) (request : Request) :
    registrationsOf first request = registrationsOf second request :=
  congrArg (fun groups => groups.filterMap registrationOf) (groupsOf_congr hnames request)

/-- A sequence of requests is a sequence of registrations that the catalog fixes. -/
theorem foldAll_ledger (registry : Registry) (requests : List Request) :
    (foldAll registry requests).ledger =
      (requests.flatMap (registrationsOf registry.catalog)).foldl Ledger.enter
        registry.ledger := by
  induction requests generalizing registry with
  | nil => rfl
  | cons request rest ih =>
      -- The fold has changed types of constants only, and no names.
      have hlater : registrationsOf (fold registry request).1.catalog =
          registrationsOf registry.catalog :=
        funext (registrationsOf_congr (namesOf_fold registry request))
      rw [foldAll_cons, ih, hlater, fold_registry, resolve_ledger, List.flatMap_cons,
        List.foldl_append]

/-- Whatever the registry, folding requests in another order ends with the same
aliases, and with the same set of members for each. -/
theorem memberSets_foldAll_perm (registry : Registry) {left right : List Request}
    (hperm : left.Perm right) :
    (foldAll registry left).ledger.memberSets =
      (foldAll registry right).ledger.memberSets := by
  rw [foldAll_ledger, foldAll_ledger]
  apply Ledger.memberSets_foldl_enter_perm
  · exact hperm.flatMap_right _
  · intro a ha
    obtain ⟨request, -, hregistered⟩ := List.mem_flatMap.mp ha
    exact many_of_mem_registrationsOf hregistered

/-- Folded before the other two, the lone request stays as it is; folded after them,
it gets the alias that they have made.  The aliases are the same in the end. -/
theorem memberSets_foldAll_perm_of_lone_request :
    let registry : Registry := { catalog := ⟨[
      { space := "gui", name := "MODE_ON" }, { space := "gui", name := "MODE_OFF" },
      { space := "gui", name := "MODE_AUTO" }]⟩ }
    let lone : Request := { types := ["gui.MODE_ON"] }
    let first : Request := { types := ["gui.MODE_ON", "gui.MODE_OFF"] }
    let second : Request := { types := ["gui.MODE_OFF", "type:gui.MODE_AUTO", "string"] }
    [lone, first, second].Perm [second, first, lone] ∧
      (fold registry lone).2.types = ["gui.MODE_ON"] ∧
      (fold (foldAll registry [second, first]) lone).2.types = ["gui.MODE", "integer"] ∧
      (foldAll registry [lone, first, second]).ledger ≠
        (foldAll registry [second, first, lone]).ledger ∧
      (foldAll registry [lone, first, second]).ledger.memberSets =
        (foldAll registry [second, first, lone]).ledger.memberSets := by
  intro registry lone first second
  have hperm : [lone, first, second].Perm [second, first, lone] :=
    List.reverse_perm [second, first, lone]
  exact ⟨hperm, by decide +kernel, by decide +kernel, by decide +kernel,
    memberSets_foldAll_perm registry hperm⟩

end Reference
end ApiStubs
