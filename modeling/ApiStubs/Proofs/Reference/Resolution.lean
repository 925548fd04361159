import ApiStubs.Proofs.Reference.Fold

/-!
# Folding type lists one after the other

Each list finds the registry as the lists before it have left it.  What the
lists replace ends up in the last ledger, and the type of a constant is the
first one, other than the default, that a list replacing it asks for.
-/

namespace ApiStubs
namespace Reference

/-- The registry after folding requests one after the other. -/
def foldAll (registry : Registry) (requests : List Request) : Registry :=
  requests.foldl (fun registry request => (fold registry request).1) registry

theorem foldAll_cons (registry : Registry) (request : Request) (rest : List Request) :
    foldAll registry (request :: rest) = foldAll (fold registry request).1 rest := by
  rw [foldAll, List.foldl_cons, foldAll]

theorem foldAll_append (registry : Registry) (first second : List Request) :
    foldAll registry (first ++ second) = foldAll (foldAll registry first) second :=
  List.foldl_append

theorem wellFormed_foldAll {registry : Registry} (hwell : registry.WellFormed)
    (requests : List Request) : (foldAll registry requests).WellFormed :=
  List.foldlRecOn (motive := Registry.WellFormed) requests _ hwell
    (fun _ hstep request _ => wellFormed_fold hstep request)

theorem grows_fold (registry : Registry) (request : Request) :
    Ledger.Grows registry.ledger (fold registry request).1.ledger := by
  rw [fold_registry]
  exact grows_resolve registry request

theorem grows_foldAll (registry : Registry) (requests : List Request) :
    Ledger.Grows registry.ledger (foldAll registry requests).ledger :=
  List.foldlRecOn
    (motive := fun reached : Registry => Ledger.Grows registry.ledger reached.ledger)
    requests _ (Ledger.Grows.refl _)
    (fun reached hreached request _ => hreached.trans (grows_fold reached request))

/-- A request, and the constants that it replaces where it stands in a run. -/
structure Resolution where
  request : Request
  substitution : Substitution
  deriving DecidableEq, Repr

def Resolution.fallback (resolution : Resolution) : Primitive :=
  fallbackOf resolution.request.declared

/-- The constant is replaced, with a fallback other than the default. -/
def Resolution.settles (resolution : Resolution) (fullName : String) : Bool :=
  resolution.fallback ≠ .integer ∧ fullName ∈ resolution.substitution.map (·.1)

/-- The resolutions of requests that are folded one after the other. -/
def resolutions (registry : Registry) : List Request → List Resolution
  | [] => []
  | request :: rest =>
      ⟨request, (resolve registry request).2⟩ ::
        resolutions (fold registry request).1 rest

/-- Whatever is replaced on the way is a member of its alias in the end. -/
theorem resolutions_heldBy (registry : Registry) (requests : List Request) :
    ∀ resolution ∈ resolutions registry requests,
      resolution.substitution.HeldBy (foldAll registry requests).ledger := by
  induction requests generalizing registry with
  | nil => simp [resolutions]
  | cons request rest ih =>
      intro resolution hmem
      rw [foldAll_cons]
      rcases List.mem_cons.mp hmem with rfl | hlater
      · have hheld : Substitution.HeldBy (fold registry request).1.ledger
            (resolve registry request).2 := by
          rw [fold_registry]
          exact resolve_heldBy registry request
        exact hheld.grows (grows_foldAll (fold registry request).1 rest)
      · exact ih (fold registry request).1 resolution hlater

/-! ## The types of constants -/

/-- The fallback of the first resolution that settles the constant. -/
def settled (resolutions : List Resolution) (fullName : String) : Primitive :=
  match resolutions.find? (·.settles fullName) with
  | some resolution => resolution.fallback
  | none => .integer

theorem settled_cons (resolution : Resolution) (rest : List Resolution)
    (fullName : String) :
    settled (resolution :: rest) fullName =
      if resolution.settles fullName then resolution.fallback
      else settled rest fullName := by
  unfold settled
  rw [List.find?_cons]
  cases resolution.settles fullName <;> rfl

theorem retypeAll_eq_map_read (primitive : Primitive) (substitution : Substitution)
    (catalog : Catalog) :
    retypeAll primitive substitution catalog =
      ⟨catalog.constants.map (fun constant => constant.withPrimitive
        (if some ⟨constant.space, constant.name⟩ ∈
            substitution.map (fun pair => QualifiedName.ofText? pair.1) then primitive
          else .integer))⟩ := by
  induction substitution generalizing catalog with
  | nil => simp [retypeAll]
  | cons pair rest ih =>
      rw [retypeAll_cons, ih, Catalog.setPrimitive_eq_map_read]
      simp only [List.map_map, Catalog.mk.injEq]
      apply List.map_congr_left
      intro constant _
      rw [Function.comp_apply, Constant.withPrimitive_space, Constant.withPrimitive_name,
        Constant.withPrimitive_withPrimitive]
      simp only [List.map_cons, List.mem_cons]
      by_cases hread : QualifiedName.ofText? pair.1 = some ⟨constant.space, constant.name⟩
      · -- Later pairs of the constant ask for the same type.
        by_cases hdefault : primitive = .integer
        · simp [hread, hdefault]
        · simp [hread, hdefault]
      · simp only [hread, Ne.symm hread, if_false, if_true, false_or]

theorem retypeAll_eq_map {catalog : Catalog} (hproper : catalog.ProperNames)
    (primitive : Primitive) (substitution : Substitution) :
    retypeAll primitive substitution catalog =
      ⟨catalog.constants.map (fun constant => constant.withPrimitive
        (if constant.fullName ∈ substitution.map (·.1) then primitive
          else .integer))⟩ := by
  rw [retypeAll_eq_map_read, Catalog.mk.injEq]
  apply List.map_congr_left
  intro constant hmem
  have hnamed : some ⟨constant.space, constant.name⟩ ∈
      substitution.map (fun pair => QualifiedName.ofText? pair.1) ↔
        constant.fullName ∈ substitution.map (·.1) := by
    simp only [List.mem_map, ← Catalog.fullName_eq_iff (hproper constant hmem),
      eq_comm (a := constant.fullName)]
  simp only [hnamed]

/-- Constants that have been given a type are not given it again. -/
theorem retypeAll_repeated (primitive : Primitive) (substitution : Substitution)
    (catalog : Catalog) :
    retypeAll primitive substitution (retypeAll primitive substitution catalog) =
      retypeAll primitive substitution catalog := by
  rw [retypeAll_eq_map_read primitive substitution catalog, retypeAll_eq_map_read]
  simp only [List.map_map, Catalog.mk.injEq]
  apply List.map_congr_left
  intro constant _
  rw [Function.comp_apply, Constant.withPrimitive_space, Constant.withPrimitive_name,
    Constant.withPrimitive_withPrimitive, ite_self]

theorem settled_resolution (registry : Registry) (request : Request)
    (rest : List Resolution) (fullName : String) :
    settled (⟨request, (resolve registry request).2⟩ :: rest) fullName =
      if fallbackOf request.declared ≠ .integer ∧
          fullName ∈ (resolve registry request).2.map (·.1) then
        fallbackOf request.declared
      else settled rest fullName := by
  rw [settled_cons, Resolution.settles, Resolution.fallback]
  by_cases hsettles : fallbackOf request.declared ≠ .integer ∧
      fullName ∈ (resolve registry request).2.map (·.1)
  · rw [if_pos (decide_eq_true hsettles), if_pos hsettles]
  · rw [if_neg (by rwa [decide_eq_true_eq]), if_neg hsettles]

theorem fold_constants {registry : Registry} (hwell : registry.WellFormed)
    (request : Request) (rest : List Resolution) :
    (fold registry request).1.catalog.constants.map (fun constant =>
        constant.withPrimitive (settled rest constant.fullName)) =
      registry.catalog.constants.map (fun constant =>
        constant.withPrimitive
          (settled (⟨request, (resolve registry request).2⟩ :: rest)
            constant.fullName)) := by
  rw [fold_registry, retypeAll_eq_map hwell.properNames]
  simp only [List.map_map]
  apply List.map_congr_left
  intro constant _
  rw [Function.comp_apply, Constant.withPrimitive_fullName,
    Constant.withPrimitive_withPrimitive, settled_resolution]
  -- The request settles the constant, or it leaves the type to the later ones.
  by_cases hdefault : fallbackOf request.declared = .integer
  · simp only [hdefault, ite_self, if_true, ne_eq, not_true_eq_false, false_and, if_false]
  · by_cases hname : constant.fullName ∈ (resolve registry request).2.map (·.1)
    · simp only [hname, hdefault, if_true, if_false, ne_eq, not_false_eq_true, and_self]
    · simp only [hname, if_true, if_false, and_false]

/-- After all requests each constant that began with the default type has the one
that the resolutions settle. -/
theorem foldAll_constants {registry : Registry} (hwell : registry.WellFormed)
    (requests : List Request) :
    (foldAll registry requests).catalog.constants =
      registry.catalog.constants.map (fun constant => constant.withPrimitive
        (settled (resolutions registry requests) constant.fullName)) := by
  induction requests generalizing registry with
  | nil => simp [foldAll, resolutions, settled]
  | cons request rest ih =>
      rw [resolutions, ← fold_constants hwell, ← ih (wellFormed_fold hwell request),
        foldAll_cons]

end Reference
end ApiStubs
