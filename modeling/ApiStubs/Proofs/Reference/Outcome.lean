import ApiStubs.Proofs.Reference.Replacement
import ApiStubs.Proofs.Registry.Operation

/-!
# What folding a request returns

A request in which nothing is replaced comes back as it is declared, and the registry stays
as it is.  Otherwise the declared types that are not replaced come back in their order, with
the aliases among them, each put in at most once, and with the fallback behind them.  Whether
a declared constant is replaced can be seen from the registry after the request alone.
-/

namespace ApiStubs

/-- The text is the full name of a registered constant that is in an alias of its space. -/
def Registry.Holds (registry : Registry) (text : String) : Prop :=
  ∃ qualified, QualifiedName.ofText? text = some qualified ∧
    registry.catalog.Registered qualified.space qualified.name ∧
    ∃ a ∈ registry.ledger.aliases, a.space = qualified.space ∧ text ∈ a.members

namespace Reference

variable {registry : Registry} {request : Request} {type : String}

/-! ## The constants that are replaced -/

theorem ofText?_constantPlaceholder : QualifiedName.ofText? constantPlaceholder = none := by
  decide

theorem mem_referred_of_declared (catalog : Catalog) (hdeclared : type ∈ request.declared)
    (hne : type ≠ constantPlaceholder) : type ∈ request.referred catalog := by
  have hnamed : type ∈ request.declared.filter (· != constantPlaceholder) :=
    List.mem_filter.mpr ⟨hdeclared, by simpa using hne⟩
  unfold Request.referred
  simp only
  split
  next => exact List.mem_append_left _ hnamed
  next => exact hnamed

theorem exists_mem_bySpace {names : List QualifiedName} {qualified : QualifiedName}
    (hmem : qualified ∈ names) : ∃ group ∈ bySpace names, group.1 = qualified.space := by
  refine ⟨_, List.mem_map_of_mem (List.mem_eraseDups.mpr ?_), rfl⟩
  exact List.mem_map_of_mem hmem

/-- Of the names that a request refers to, those in an alias after it have been replaced. -/
theorem exists_mem_resolve_iff {qualified : QualifiedName}
    (hrecorded : qualified ∈ recorded registry.catalog (request.referred registry.catalog)) :
    (∃ replacement, (qualified.text, replacement) ∈ (resolve registry request).2) ↔
      ∃ a ∈ (resolve registry request).1.aliases,
        a.space = qualified.space ∧ qualified.text ∈ a.members := by
  have hgroup : ∀ group ∈ groupsOf registry.catalog request, ∀ name ∈ group.2,
      ((∃ replacement, (qualify group.1 name, replacement) ∈
          replacedIn (resolve registry request).1 group) ↔
        ∃ a ∈ (resolve registry request).1.aliases,
          a.space = group.1 ∧ qualify group.1 name ∈ a.members) := by
    intro group hgroup name hname
    refine exists_mem_replacedIn_iff (nodup_of_mem_groupsOf hgroup) ?_ hname
    intro a hregistration
    exact absorbs_resolve registry request a (List.mem_filterMap.mpr ⟨group, hgroup, hregistration⟩)
  constructor
  · rintro ⟨replacement, hpair⟩
    rw [resolve_substitution] at hpair
    obtain ⟨group, hmem, hpair⟩ := List.mem_flatMap.mp hpair
    obtain ⟨name, hname, htext⟩ := mem_replacedIn hpair
    have hsame : qualified = ⟨group.1, name⟩ :=
      (proper_of_mem_recorded hrecorded).eq_of_text
        (proper_of_mem_recorded ((mem_bySpace hmem).mp hname)) htext
    subst hsame
    exact (hgroup group hmem name hname).mp ⟨replacement, hpair⟩
  · intro halias
    obtain ⟨⟨space, names⟩, hmem, rfl⟩ := exists_mem_bySpace hrecorded
    have hname : qualified.name ∈ names := (mem_bySpace hmem).mpr hrecorded
    obtain ⟨replacement, hpair⟩ := (hgroup _ hmem _ hname).mpr halias
    rw [resolve_substitution]
    exact ⟨replacement, List.mem_flatMap.mpr ⟨_, hmem, hpair⟩⟩

/-- A declared type is replaced if the registry after the request holds it, and only then. -/
theorem isSome_replacement?_iff (hdeclared : type ∈ request.declared) :
    ((resolve registry request).2.replacement? type).isSome = true ↔
      (fold registry request).1.Holds type := by
  have hledger := fold_ledger registry request
  rw [Substitution.replacement?, Keyed.isSome_lookup_iff]
  constructor
  · rintro ⟨replacement, hpair⟩
    obtain ⟨qualified, hrecorded, hread⟩ := mem_resolve hpair
    obtain ⟨-, rfl⟩ := QualifiedName.ofText?_eq_some_iff.mp hread
    refine ⟨qualified, hread, ?_, ?_⟩
    · exact registered_fold_iff.mpr (registered_of_mem_recorded hrecorded)
    · rw [hledger]
      exact (exists_mem_resolve_iff hrecorded).mp ⟨replacement, hpair⟩
  · rintro ⟨qualified, hread, hregistered, halias⟩
    have hne : type ≠ constantPlaceholder := by
      rintro rfl
      rw [ofText?_constantPlaceholder] at hread
      contradiction
    have hrecorded : qualified ∈
        recorded registry.catalog (request.referred registry.catalog) :=
      mem_recorded_iff.mpr ⟨⟨type, mem_referred_of_declared _ hdeclared hne, hread⟩,
        registered_fold_iff.mp hregistered⟩
    obtain ⟨-, rfl⟩ := QualifiedName.ofText?_eq_some_iff.mp hread
    rw [hledger] at halias
    exact (exists_mem_resolve_iff hrecorded).mpr halias

/-! ## The aliases that are put in -/

/-- Nothing is replaced only if nothing has been registered. -/
theorem registrationOf_eq_none {ledger : Ledger} {group : String × List String}
    (hnodup : group.2.Nodup) (hidle : replacedIn ledger group = []) :
    registrationOf group = none := by
  cases hrun : runOf group.2 with
  | none => rw [registrationOf, hrun, Option.map_none]
  | some run =>
      rw [replacedIn_of_run hnodup hrun, List.map_eq_nil_iff] at hidle
      rw [hidle] at hrun
      contradiction

theorem resolve_ledger_of_idle (hidle : (resolve registry request).2 = []) :
    (resolve registry request).1 = registry.ledger := by
  have hnone : registrationsOf registry.catalog request = [] := by
    rw [registrationsOf, List.filterMap_eq_nil_iff]
    intro group hgroup
    rw [resolve_substitution, List.flatMap_eq_nil_iff] at hidle
    exact registrationOf_eq_none (nodup_of_mem_groupsOf hgroup) (hidle group hgroup)
  rw [resolve_ledger, hnone, List.foldl_nil]

/-- An alias that is put in is registered, and has all the constants in whose place it is. -/
theorem exists_alias_of_mem_produced (hwell : registry.WellFormed) {replacement : String}
    (hproduced : replacement ∈ (resolve registry request).2.produced) :
    ∃ a ∈ (resolve registry request).1.aliases, a.fullName = replacement ∧
      ∀ fullName, (fullName, replacement) ∈ (resolve registry request).2 →
        fullName ∈ a.members := by
  obtain ⟨first, hfirst⟩ := Substitution.mem_produced.mp hproduced
  obtain ⟨a, ha, hname, -⟩ := resolve_heldBy registry request _ hfirst
  refine ⟨a, ha, hname, ?_⟩
  intro fullName hpair
  obtain ⟨b, hb, hsame, hmember⟩ := resolve_heldBy registry request _ hpair
  -- Two pairs with one alias in their place mean the same entry of the ledger.
  rw [(wellFormed_resolve hwell request).eq_of_fullName ha hb (hname.trans hsame.symm)]
  exact hmember

/-! ## The request as a whole -/

/-- What a request returns and leaves behind, with `replaced` telling which alias is in the
place of a constant. -/
structure IsOutcome (before : Registry) (request : Request) (after : Registry)
    (folded : Folded) (replaced : String → Option String) : Prop where
  idle : folded.aliases = [] →
    folded.types = request.declared ∧ folded.fallback = none ∧ after = before
  rebuilt : folded.aliases ≠ [] → ∃ core fallback,
    folded.types = core ++ [fallback.name] ∧ folded.fallback = some fallback ∧
    fallback.name =
      (if "string" ∈ request.declared then "string"
        else if "hash" ∈ request.declared then "hash" else "integer") ∧
    constantPlaceholder ∉ core ∧ folded.aliases ⊆ core ∧
    Inserted folded.aliases (keptOf replaced request.declared) core
  registered : ∀ replacement ∈ folded.aliases,
    after.ledger.hasFull replacement = true ∧
    ∃ a ∈ after.ledger.aliases, a.fullName = replacement ∧
      ∀ fullName, replaced fullName = some replacement → fullName ∈ a.members
  reported : ∀ fullName replacement, replaced fullName = some replacement →
    replacement ∈ folded.aliases
  complete : ∀ type ∈ request.declared, (replaced type).isSome = true ↔ after.Holds type

theorem fallbackOf_name (declared : List String) :
    (fallbackOf declared).name =
      if "string" ∈ declared then "string" else if "hash" ∈ declared then "hash"
      else "integer" := by
  unfold fallbackOf
  split
  next => rfl
  next => split <;> rfl

theorem fold_aliases (registry : Registry) (request : Request) :
    (fold registry request).2.aliases = (resolve registry request).2.produced := by
  rw [fold_eq]
  split
  next hproduced => exact hproduced.symm
  next => rfl

theorem fold_of_idle (hidle : (resolve registry request).2.produced = []) :
    fold registry request = (registry, ⟨request.declared, [], none⟩) := by
  have hnone := Substitution.produced_eq_nil_iff.mp hidle
  rw [fold_eq, if_pos hidle, resolve_ledger_of_idle hnone]

theorem placeholder_not_mem_produced (hwell : registry.WellFormed) :
    constantPlaceholder ∉ (resolve registry request).2.produced := by
  intro hproduced
  obtain ⟨a, ha, hname, -⟩ := exists_alias_of_mem_produced hwell hproduced
  have hread := QualifiedName.ofText?_text ((wellFormed_resolve hwell request).properAlias ha)
  rw [← qualify, ← Alias.fullName, hname, ofText?_constantPlaceholder] at hread
  contradiction

theorem fold_rebuilt (hwell : registry.WellFormed)
    (hproduced : (resolve registry request).2.produced ≠ []) :
    ∃ core, (fold registry request).2.types =
        core ++ [(fallbackOf request.declared).name] ∧
      (fold registry request).2.fallback = some (fallbackOf request.declared) ∧
      constantPlaceholder ∉ core ∧ (resolve registry request).2.produced ⊆ core ∧
      Inserted (resolve registry request).2.produced
        (keptOf (resolve registry request).2.replacement? request.declared) core := by
  have hinserted := inserted_types (resolve registry request).2 request.declared
  rw [fold_eq, if_neg hproduced]
  refine ⟨_, rfl, rfl, ?_, ?_, hinserted⟩
  · intro hmem
    rcases hinserted.mem hmem with hkept | halias
    · simp [keptOf] at hkept
    · exact placeholder_not_mem_produced hwell halias
  · intro replacement hreplacement
    exact Alias.mem_joinMembers.mpr (.inr hreplacement)

/-- After any operations, a request returns the declared types if nothing is replaced, and
then the registry stays as it is.  Otherwise it returns the declared types that stay, in
their order, with every alias among them and the fallback behind them.  The aliases are
registered and have the constants that they replace, and the declared constants that are
replaced are those that are in an alias of their space after the request. -/
theorem isOutcome_fold (operations : List Operation) (request : Request) :
    let registry := (Operation.performAll operations).registry
    IsOutcome registry request (fold registry request).1 (fold registry request).2
      (resolve registry request).2.replacement? := by
  intro registry
  have hwell : registry.WellFormed := Operation.wellFormed_performAll operations
  have haliases := fold_aliases registry request
  have hledger : (fold registry request).1.ledger = (resolve registry request).1 := by
    rw [fold_registry]
  refine ⟨?idle, ?rebuilt, ?registered, ?reported, ?complete⟩
  case idle =>
    intro hidle
    rw [haliases] at hidle
    rw [fold_of_idle hidle]
    exact ⟨rfl, rfl, rfl⟩
  case rebuilt =>
    intro hsome
    rw [haliases] at hsome ⊢
    obtain ⟨core, htypes, hfallback, hrest⟩ := fold_rebuilt hwell hsome
    exact ⟨core, fallbackOf request.declared, htypes, hfallback, fallbackOf_name _, hrest⟩
  case registered =>
    intro replacement hreplacement
    rw [haliases] at hreplacement
    rw [hledger]
    obtain ⟨a, ha, hname, hmembers⟩ := exists_alias_of_mem_produced hwell hreplacement
    refine ⟨(wellFormed_resolve hwell request).hasFull_iff.mpr ⟨a, ha, hname⟩, a, ha, hname, ?_⟩
    intro fullName hreplaced
    exact hmembers fullName (Keyed.mem_of_lookup hreplaced)
  case reported =>
    intro fullName replacement hreplaced
    rw [haliases]
    exact Substitution.mem_produced.mpr ⟨fullName, Keyed.mem_of_lookup hreplaced⟩
  case complete =>
    intro type hdeclared
    exact isSome_replacement?_iff hdeclared

example :
    let catalog : Catalog := ⟨[
      { space := "gui", name := "MODE_ON" }, { space := "gui", name := "MODE_OFF" },
      { space := "sys", name := "COLOR" }]⟩
    let types := ["gui.MODE_ON", "string", "type:gui.MODE_OFF", "sys.COLOR", "string"]
    (fold { catalog } { types }).2 =
      ⟨["gui.MODE", "string", "sys.COLOR", "string", "string"], ["gui.MODE"], some .string⟩ := by
  decide +kernel

end Reference
end ApiStubs
