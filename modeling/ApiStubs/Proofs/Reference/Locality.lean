import ApiStubs.Proofs.Reference.Rebuild
import ApiStubs.Proofs.Reference.Registrations
import ApiStubs.Proofs.Registry.OneSpace

/-!
# Folding stays in the spaces that a request mentions

A request reads the registry only at the spaces that its own texts mention, and it
writes there only if the space has constants.  So registries that agree at these
spaces give the same types, and what a registry holds of another space stays as it is.
-/

namespace ApiStubs
namespace Reference

open Prefix (namesOf)

variable {registry first second : Registry} {request : Request} {space : String}

/-! ## The constants that are recorded -/

theorem mentions_of_mem_referred {catalog : Catalog} (hproper : catalog.ProperNames)
    {fullName : String} (hreferred : fullName ∈ request.referred catalog)
    {qualified : QualifiedName}
    (hread : QualifiedName.ofText? fullName = some qualified) :
    request.Mentions qualified.space := by
  rcases mem_referred hreferred with
    hdeclared | ⟨space, name, hmentions, ⟨constant, hconstant, rfl, rfl⟩, rfl⟩
  · obtain ⟨-, htext⟩ := QualifiedName.ofText?_eq_some_iff.mp hread
    apply mentions_of_declared hdeclared
    rw [← htext]
    exact qualified.space_dot_isPrefix.isInfix
  · have hname := QualifiedName.ofText?_text (hproper constant hconstant)
    rw [qualify, hname, Option.some.injEq] at hread
    rw [← hread]
    exact hmentions

theorem read_of_mem_recorded {catalog : Catalog} {fullNames : List String}
    {qualified : QualifiedName} (hmem : qualified ∈ recorded catalog fullNames) :
    ∃ fullName ∈ fullNames, QualifiedName.ofText? fullName = some qualified :=
  (mem_recorded_iff.mp hmem).1

theorem proper_of_mem_recorded {catalog : Catalog} {fullNames : List String}
    {qualified : QualifiedName} (hmem : qualified ∈ recorded catalog fullNames) :
    qualified.Proper := by
  obtain ⟨fullName, -, hread⟩ := read_of_mem_recorded hmem
  exact (QualifiedName.ofText?_eq_some_iff.mp hread).1

theorem mentions_of_mem_recorded {catalog : Catalog} (hproper : catalog.ProperNames)
    {qualified : QualifiedName}
    (hmem : qualified ∈ recorded catalog (request.referred catalog)) :
    request.Mentions qualified.space := by
  obtain ⟨fullName, hreferred, hread⟩ := read_of_mem_recorded hmem
  exact mentions_of_mem_referred hproper hreferred hread

theorem recorded_referred_congr {first second : Catalog} (hproper : second.ProperNames)
    (hnames : ∀ space, request.Mentions space →
      namesOf first space = namesOf second space) :
    recorded first (request.referred first) =
      recorded second (request.referred second) := by
  rw [referred_congr hnames]
  apply recorded_congr
  intro fullName hreferred qualified hread
  exact hnames _ (mentions_of_mem_referred hproper hreferred hread)

/-! ## Folding one space -/

/-- What is put in the place of the names of a space. -/
def replacedIn (ledger : Ledger) (group : String × List String) : Substitution :=
  match runOf group.2 with
  | none => knownAliases ledger group.1 group.2
  | some run =>
      if (ledger.register group.1 run (group.2.map (qualify group.1))).2 then
        group.2.map (fun name => (qualify group.1 name, qualify group.1 run))
      else knownAliases ledger group.1 group.2

theorem foldSpace_substitution (state : Ledger × Substitution)
    (group : String × List String) :
    (foldSpace state group).2 = state.2 ++ replacedIn state.1 group := by
  obtain ⟨ledger, substitution⟩ := state
  obtain ⟨space, names⟩ := group
  unfold foldSpace replacedIn
  simp only
  cases runOf names with
  | none => rfl
  | some run =>
      rcases Ledger.register_cases ledger space run (names.map (qualify space)) with
        ⟨-, hregister⟩ | ⟨-, -, hregister⟩ | ⟨-, -, hregister⟩
      · simp only [hregister, if_true]
      · simp only [hregister, Bool.false_eq_true, if_false]
      · simp only [hregister, if_true]

theorem replacedIn_only (ledger : Ledger) (group : String × List String) :
    replacedIn (ledger.only group.1) group = replacedIn ledger group := by
  unfold replacedIn knownAliases
  simp only [Ledger.findByMember_only, Ledger.register_only]

theorem mem_replacedIn {ledger : Ledger} {group : String × List String}
    {pair : String × String} (hpair : pair ∈ replacedIn ledger group) :
    ∃ name ∈ group.2, pair.1 = qualify group.1 name := by
  have hknown : pair ∈ knownAliases ledger group.1 group.2 →
      ∃ name ∈ group.2, pair.1 = qualify group.1 name := by
    intro hmem
    simp only [knownAliases, List.mem_filterMap, Option.map_eq_some_iff] at hmem
    obtain ⟨name, hname, a, -, rfl⟩ := hmem
    exact ⟨name, hname, rfl⟩
  unfold replacedIn at hpair
  split at hpair
  next => exact hknown hpair
  next =>
    split at hpair
    next =>
      obtain ⟨name, hname, rfl⟩ := List.mem_map.mp hpair
      exact ⟨name, hname, rfl⟩
    next => exact hknown hpair

theorem foldl_foldSpace_congr {groups : List (String × List String)}
    {left right : Ledger × Substitution}
    (honly : ∀ group ∈ groups, left.1.only group.1 = right.1.only group.1)
    (hsame : left.2 = right.2) :
    (groups.foldl foldSpace left).2 = (groups.foldl foldSpace right).2 := by
  induction groups generalizing left right with
  | nil => exact hsame
  | cons group groups ih =>
      apply ih
      · -- The same alias is registered on both sides, whichever space it lies in.
        intro other hother
        have hagree := honly other (List.mem_cons_of_mem group hother)
        rw [foldSpace_ledger, foldSpace_ledger]
        cases registrationOf group with
        | none => exact hagree
        | some a => simp only [Ledger.only_enter, hagree]
      · rw [foldSpace_substitution, foldSpace_substitution, ← replacedIn_only left.1,
          honly group List.mem_cons_self, replacedIn_only, hsame]

/-! ## Resolving a request -/

theorem exists_of_mem_bySpace {names : List QualifiedName} {group : String × List String}
    (hgroup : group ∈ bySpace names) : ∃ qualified ∈ names, qualified.space = group.1 := by
  obtain ⟨space, hspace, rfl⟩ := List.mem_map.mp hgroup
  rw [List.mem_eraseDups] at hspace
  exact List.mem_map.mp hspace

theorem mentions_of_mem_bySpace {catalog : Catalog} (hproper : catalog.ProperNames)
    {group : String × List String}
    (hgroup : group ∈ bySpace (recorded catalog (request.referred catalog))) :
    request.Mentions group.1 := by
  obtain ⟨qualified, hmem, hspace⟩ := exists_of_mem_bySpace hgroup
  rw [← hspace]
  exact mentions_of_mem_recorded hproper hmem

/-- Every replaced constant is one that the request refers to. -/
theorem mem_resolve {pair : String × String}
    (hpair : pair ∈ (resolve registry request).2) :
    ∃ qualified ∈ recorded registry.catalog (request.referred registry.catalog),
      QualifiedName.ofText? pair.1 = some qualified := by
  have hall : ∀ pair ∈ (resolve registry request).2,
      ∃ qualified ∈ recorded registry.catalog (request.referred registry.catalog),
        QualifiedName.ofText? pair.1 = some qualified := by
    apply List.foldlRecOn
      (motive := fun state : Ledger × Substitution => ∀ pair ∈ state.2,
        ∃ qualified ∈ recorded registry.catalog (request.referred registry.catalog),
          QualifiedName.ofText? pair.1 = some qualified) _ foldSpace (by simp)
    intro state hstate group hgroup pair hpair
    rw [foldSpace_substitution] at hpair
    rcases List.mem_append.mp hpair with hold | hnew
    · exact hstate pair hold
    · obtain ⟨name, hname, hqualify⟩ := mem_replacedIn hnew
      have hmem := (mem_bySpace hgroup).mp hname
      refine ⟨⟨group.1, name⟩, hmem, ?_⟩
      rw [hqualify]
      exact QualifiedName.ofText?_text (proper_of_mem_recorded hmem)
  exact hall pair hpair

theorem only_retypeAll (primitive : Primitive) (substitution : Substitution)
    (catalog : Catalog) (space : String) :
    (retypeAll primitive substitution catalog).only space =
      retypeAll primitive substitution (catalog.only space) := by
  induction substitution generalizing catalog with
  | nil => rfl
  | cons pair rest ih =>
      rw [retypeAll_cons, retypeAll_cons, ih, Catalog.only_setPrimitive]

section Agreement

variable (hproper : second.catalog.ProperNames)
  (honly : ∀ space, request.Mentions space → first.only space = second.only space)

include hproper honly

theorem recorded_eq_of_agree :
    recorded first.catalog (request.referred first.catalog) =
      recorded second.catalog (request.referred second.catalog) := by
  apply recorded_referred_congr hproper
  intro space hmentions
  exact Catalog.namesOf_congr (Registry.only_eq_iff.mp (honly space hmentions)).1

/-- Registries that agree where the request mentions something replace the same. -/
theorem resolve_substitution_congr :
    (resolve first request).2 = (resolve second request).2 := by
  unfold resolve
  rw [recorded_eq_of_agree hproper honly]
  refine foldl_foldSpace_congr ?_ rfl
  intro group hgroup
  exact (Registry.only_eq_iff.mp
    (honly group.1 (mentions_of_mem_bySpace hproper hgroup))).2

theorem fold_congr : (fold first request).2 = (fold second request).2 := by
  rw [fold_eq, fold_eq, resolve_substitution_congr hproper honly]
  split <;> rfl

theorem only_fold_congr (hspace : first.only space = second.only space) :
    (fold first request).1.only space = (fold second request).1.only space := by
  obtain ⟨hcatalog, hledger⟩ := Registry.only_eq_iff.mp hspace
  have hregistrations : registrationsOf first.catalog request =
      registrationsOf second.catalog request := by
    rw [registrationsOf, registrationsOf, recorded_eq_of_agree hproper honly]
  rw [fold_registry, fold_registry, Registry.only_eq_iff]
  constructor
  · simp only [only_retypeAll, hcatalog, resolve_substitution_congr hproper honly]
  · simp only [resolve_ledger, Ledger.only_foldl_enter, hregistrations, hledger]

end Agreement

/-! ## Spaces that stay as they are -/

/-- A space that the request does not mention, or that has no constants, is neither
given aliases nor types. -/
theorem only_fold_of_unnamed (hproper : registry.catalog.ProperNames)
    (hunnamed : request.Mentions space → namesOf registry.catalog space = []) :
    (fold registry request).1.only space = registry.only space := by
  have hother : ∀ qualified ∈
      recorded registry.catalog (request.referred registry.catalog),
      qualified.space ≠ space := by
    rintro qualified hmem rfl
    have hname := Catalog.registered_iff_mem_namesOf.mp (registered_of_mem_recorded hmem)
    rw [hunnamed (mentions_of_mem_recorded hproper hmem)] at hname
    contradiction
  rw [fold_registry, Registry.only_eq_iff]
  constructor
  · -- Types are given to constants that the request refers to, all in other spaces.
    rw [retypeAll]
    apply List.foldlRecOn
      (motive := fun catalog : Catalog => catalog.only space = registry.catalog.only space)
      (resolve registry request).2 _ rfl
    intro catalog hcatalog pair hpair
    obtain ⟨qualified, hmem, hread⟩ := mem_resolve hpair
    rw [Catalog.only_setPrimitive_of_not, hcatalog]
    rintro ⟨name, hread'⟩
    rw [hread, Option.some.injEq] at hread'
    exact hother qualified hmem (by rw [hread'])
  · have hnone : (registrationsOf registry.catalog request).filter (·.space = space) =
        [] := by
      rw [List.filter_eq_nil_iff]
      intro a ha
      obtain ⟨group, hgroup, hregistration⟩ := List.mem_filterMap.mp ha
      obtain ⟨run, -, rfl⟩ := Option.map_eq_some_iff.mp hregistration
      obtain ⟨qualified, hmem, hspace⟩ := exists_of_mem_bySpace hgroup
      simpa [hspace] using hother qualified hmem
    rw [resolve_ledger, Ledger.only_foldl_enter, hnone, List.foldl_nil]

theorem only_foldAll_of_unnamed (hwell : registry.WellFormed) {requests : List Request}
    (hunnamed : ∀ request ∈ requests, request.Mentions space →
      namesOf registry.catalog space = []) :
    (foldAll registry requests).only space = registry.only space := by
  induction requests generalizing registry with
  | nil => rfl
  | cons request rest ih =>
      rw [foldAll_cons, ih (wellFormed_fold hwell request),
        only_fold_of_unnamed hwell.properNames (hunnamed request List.mem_cons_self)]
      intro other hother hmentions
      rw [namesOf_fold]
      exact hunnamed other (List.mem_cons_of_mem request hother) hmentions

/-! ## The types of a folded list -/

/-- A folded list holds declared types, aliases and the fallback. -/
theorem mem_fold_types {token : String} (htoken : token ∈ (fold registry request).2.types) :
    token ∈ request.declared ∨ (∃ pair ∈ (resolve registry request).2, token = pair.2) ∨
      ∃ primitive, (fold registry request).2.fallback = some primitive ∧
        token = primitive.name := by
  rw [fold_eq] at htoken ⊢
  split at htoken
  next => exact .inl htoken
  next hproduced =>
    rw [if_neg hproduced]
    rcases List.mem_append.mp htoken with htypes | hlast
    · rcases (inserted_types _ _).mem htypes with hkept | hproduced
      · exact .inl (List.mem_of_mem_filter hkept)
      · obtain ⟨fullName, hpair⟩ := Substitution.mem_produced.mp hproduced
        exact .inr (.inl ⟨(fullName, token), hpair, rfl⟩)
    · exact .inr (.inr ⟨_, rfl, List.mem_singleton.mp hlast⟩)

theorem ofText?_dropLiteralMark_primitive (primitive : Primitive) :
    QualifiedName.ofText? (dropLiteralMark primitive.name) = none := by
  cases primitive <;> decide

/-- An alias lies in the space of a constant that it took the place of. -/
theorem exists_alias_of_mem_resolve (hwell : registry.WellFormed) {pair : String × String}
    (hpair : pair ∈ (resolve registry request).2) :
    ∃ a ∈ (resolve registry request).1.aliases, a.fullName = pair.2 ∧
      ∃ qualified ∈ recorded registry.catalog (request.referred registry.catalog),
        qualified.space = a.space := by
  obtain ⟨a, ha, hname, hmember⟩ := resolve_heldBy registry request pair hpair
  obtain ⟨short, hshort, ⟨constant, hconstant, hspace, hname'⟩, -⟩ :=
    ((wellFormed_resolve hwell request).sound a ha).covers _ hmember
  have hproper := hwell.properNames constant hconstant
  rw [hspace, hname'] at hproper
  obtain ⟨found, hfound, hread⟩ := mem_resolve hpair
  rw [hshort, qualify, QualifiedName.ofText?_text hproper, Option.some.injEq] at hread
  exact ⟨a, ha, hname, found, hfound, by rw [← hread]⟩

/-- A name in a folded list lies in a space that the request mentions, or in the part
of one that stands behind a mark. -/
theorem mentions_of_mem_fold_types (hwell : registry.WellFormed) {token : String}
    (htoken : token ∈ (fold registry request).2.types) {qualified : QualifiedName}
    (hread : QualifiedName.ofText? (dropLiteralMark token) = some qualified) :
    request.Mentions qualified.space := by
  obtain ⟨hproper, htext⟩ := QualifiedName.ofText?_eq_some_iff.mp hread
  have hsuffix : qualified.text.toList <:+ token.toList := by
    rw [htext]
    exact dropLiteralMark_isSuffix token
  rcases mem_fold_types htoken with hdeclared | ⟨pair, hpair, rfl⟩ | ⟨primitive, -, rfl⟩
  · exact mentions_of_declared hdeclared
      (qualified.space_dot_isPrefix.isInfix.trans hsuffix.isInfix)
  · obtain ⟨a, ha, hname, found, hfound, hspace⟩ := exists_alias_of_mem_resolve hwell hpair
    have hproperAlias := (wellFormed_resolve hwell request).properAlias ha
    have hmentions : request.Mentions a.space := by
      rw [← hspace]
      exact mentions_of_mem_recorded hwell.properNames hfound
    apply hmentions.of_infix
    rw [← hname] at hsuffix
    obtain ⟨start, hstart⟩ := QualifiedName.space_isSuffix hproperAlias hproper hsuffix
    rw [String.toList_append, String.toList_append, ← hstart, List.append_assoc]
    exact (List.suffix_append start _).isInfix
  · rw [ofText?_dropLiteralMark_primitive] at hread
    exact absurd hread (Option.some_ne_none qualified).symm

end Reference
end ApiStubs
