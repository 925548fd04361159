import ApiStubs.Proofs.Prefix.CommonRun
import ApiStubs.Proofs.Reference.Registrations

/-!
# Folding names with a common run

A type list that consists of constants of one space is folded into the alias of
their common run, followed by the default type.
-/

namespace ApiStubs

/-- A full name has a dot. -/
theorem ne_of_mem_map_qualify {space type text : String} {names : List String}
    (htype : type ∈ names.map (qualify space)) (hdot : '.' ∉ text.toList) : type ≠ text := by
  obtain ⟨name, -, rfl⟩ := List.mem_map.mp htype
  rintro rfl
  simp [qualify, QualifiedName.text] at hdot

theorem Catalog.ProperNames.proper {catalog : Catalog} (hproper : catalog.ProperNames)
    {space name : String} (hregistered : catalog.Registered space name) :
    QualifiedName.Proper ⟨space, name⟩ := by
  obtain ⟨constant, hmem, rfl, rfl⟩ := hregistered
  exact hproper constant hmem

namespace Reference

variable {registry : Registry} {request : Request} {space run : String} {names : List String}

theorem recorded_qualify {catalog : Catalog} (hproper : catalog.ProperNames)
    (hregistered : ∀ name ∈ names, catalog.Registered space name) (hnodup : names.Nodup) :
    recorded catalog (names.map (qualify space)) =
      names.map (fun name => ⟨space, name⟩) := by
  have hread : (names.map (qualify space)).filterMap QualifiedName.ofText? =
      names.map (fun name => ⟨space, name⟩) := by
    rw [List.filterMap_map, ← List.filterMap_eq_map]
    apply List.filterMap_congr
    intro name hname
    exact QualifiedName.ofText?_text (hproper.proper (hregistered name hname))
  have hkept : (names.map (fun name => (⟨space, name⟩ : QualifiedName))).filter
      (fun qualified => (catalog.lookup qualified.space qualified.name).isSome) =
      names.map (fun name => ⟨space, name⟩) := by
    rw [List.filter_eq_self]
    intro qualified hqualified
    obtain ⟨name, hname, rfl⟩ := List.mem_map.mp hqualified
    exact Catalog.isSome_lookup_iff.mpr (hregistered name hname)
  rw [recorded, hread, hkept]
  apply Keyed.eraseDups_of_nodup
  apply hnodup.map
  intro first second hsame
  exact congrArg QualifiedName.name hsame

theorem bySpace_qualify (hne : names ≠ []) :
    bySpace (names.map (fun name => ⟨space, name⟩)) = [(space, names)] := by
  have hspaces : ((names.map (fun name => (⟨space, name⟩ : QualifiedName))).map
      (·.space)).eraseDups = [space] := by
    rw [List.map_map]
    exact Keyed.eraseDups_map_const hne space
  have hnames : ((names.map (fun name => (⟨space, name⟩ : QualifiedName))).filter
      (·.space = space)).map (·.name) = names := by
    simp [List.filter_map, Function.comp_def]
  rw [bySpace, hspaces, List.map_singleton, hnames]

theorem referred_qualify (hdeclared : request.declared = names.map (qualify space))
    (catalog : Catalog) : request.referred catalog = names.map (qualify space) := by
  have hnone : ∀ type ∈ names.map (qualify space), type ≠ constantPlaceholder :=
    fun type htype => ne_of_mem_map_qualify htype (by decide)
  have hplaceholder : constantPlaceholder ∉ names.map (qualify space) :=
    fun hmem => hnone _ hmem rfl
  have hkept : (names.map (qualify space)).filter (· != constantPlaceholder) =
      names.map (qualify space) := by
    rw [List.filter_eq_self]
    intro type htype
    simpa using hnone type htype
  unfold Request.referred
  rw [hdeclared, hkept, if_neg hplaceholder]

theorem runOf_of_length (hmany : 2 ≤ names.length) : runOf names = Prefix.commonRun names := by
  unfold runOf
  rw [if_neg (Nat.not_lt_of_le hmany)]

/-- The constants of one space with a common run are all replaced by its alias. -/
theorem resolve_qualify (hproper : registry.catalog.ProperNames)
    (hregistered : ∀ name ∈ names, registry.catalog.Registered space name)
    (hnodup : names.Nodup) (hmany : 2 ≤ names.length)
    (hrun : Prefix.commonRun names = some run)
    (hdeclared : request.declared = names.map (qualify space)) :
    resolve registry request =
      (registry.ledger.enter ⟨space, run, names.map (qualify space)⟩,
        names.map (fun name => (qualify space name, qualify space run))) := by
  have hne : names ≠ [] := by
    rintro rfl
    simp at hmany
  have hmembers : Alias.Many (names.map (qualify space)) := by
    apply Alias.many_of_nodup
    · exact hnodup.map (fun _ _ => qualify_right_injective)
    · rw [List.length_map]
      exact hmany
  rw [resolve, referred_qualify hdeclared, recorded_qualify hproper hregistered hnodup,
    bySpace_qualify hne, List.foldl_cons, List.foldl_nil]
  unfold foldSpace
  simp only [runOf_of_length hmany, hrun, List.nil_append]
  rcases Ledger.register_cases registry.ledger space run (names.map (qualify space)) with
    ⟨-, hregister⟩ | ⟨-, hfew, -⟩ | ⟨-, -, hregister⟩
  · rw [Ledger.enter]
    simp only [hregister]
  · exact absurd hmembers (Nat.not_le_of_lt hfew)
  · rw [Ledger.enter]
    simp only [hregister]

/-! ## The types that come out -/

theorem foldl_pushNew_const {items : List String} (hne : items ≠ []) (a : String) :
    items.foldl (fun done _ => pushNew done a) [] = [a] := by
  have hrest : ∀ rest : List String, rest.foldl (fun done _ => pushNew done a) [a] = [a] := by
    intro rest
    induction rest with
    | nil => rfl
    | cons item rest ih =>
        have hknown : pushNew [a] a = [a] := by simp [pushNew]
        rw [List.foldl_cons, hknown, ih]
  cases items with
  | nil => contradiction
  | cons item rest => exact hrest rest

theorem produced_map_const (hne : names ≠ []) (a : String) :
    Substitution.produced (names.map (fun name => (qualify space name, a))) = [a] := by
  rw [Substitution.produced, List.map_map, Alias.joinMembers, List.foldl_map]
  exact foldl_pushNew_const hne a

theorem lookup_map_const {keys : List String} {key : String} (hkey : key ∈ keys) (a : String) :
    (keys.map (fun name => (name, a))).lookup key = some a := by
  induction keys with
  | nil => simp at hkey
  | cons first rest ih =>
      rw [List.map_cons, List.lookup_cons]
      cases hfirst : key == first with
      | true => rfl
      | false =>
          have hne : key ≠ first := by simpa using hfirst
          exact ih ((List.mem_cons.mp hkey).resolve_left hne)

theorem rebuild_map_const {types : List String} (hne : types ≠ [])
    (hkept : ∀ type ∈ types, type ≠ constantPlaceholder) (a : String) :
    rebuild (types.map (fun type => (type, a))) types = [a] := by
  have hfilter : types.filter (· != constantPlaceholder) = types := by
    rw [List.filter_eq_self]
    intro type htype
    simpa using hkept type htype
  calc
    rebuild (types.map (fun type => (type, a))) types =
        types.foldl (fun done _ => pushNew done a) [] := by
      rw [rebuild, hfilter]
      apply List.foldl_ext
      intro done type htype
      simp only [lookup_map_const htype]
    _ = [a] := foldl_pushNew_const hne a

theorem fallbackOf_qualify (space : String) (names : List String) :
    fallbackOf (names.map (qualify space)) = .integer := by
  have hnone : ∀ text : String, '.' ∉ text.toList → text ∉ names.map (qualify space) :=
    fun text hdot hmem => ne_of_mem_map_qualify hmem hdot rfl
  unfold fallbackOf
  rw [if_neg (hnone "string" (by decide)), if_neg (hnone "hash" (by decide))]

theorem retypeAll_integer {catalog : Catalog} (hproper : catalog.ProperNames)
    (substitution : Substitution) : retypeAll .integer substitution catalog = catalog := by
  rw [retypeAll_eq_map hproper]
  simp

/-- The whole list becomes the alias of the common run and the default type. -/
theorem fold_qualify (hproper : registry.catalog.ProperNames)
    (hregistered : ∀ name ∈ names, registry.catalog.Registered space name)
    (hnodup : names.Nodup) (hmany : 2 ≤ names.length)
    (hrun : Prefix.commonRun names = some run)
    (hdeclared : request.declared = names.map (qualify space)) :
    fold registry request =
      ({ registry with
          ledger := registry.ledger.enter ⟨space, run, names.map (qualify space)⟩ },
        ⟨[qualify space run, Primitive.integer.name], [qualify space run], some .integer⟩) := by
  have hne : names ≠ [] := by
    rintro rfl
    simp at hmany
  have hresolve := resolve_qualify hproper hregistered hnodup hmany hrun hdeclared
  have hproduced : Substitution.produced
      (names.map (fun name => (qualify space name, qualify space run))) = [qualify space run] :=
    produced_map_const hne (qualify space run)
  have hrebuild : rebuild (names.map (fun name => (qualify space name, qualify space run)))
      (names.map (qualify space)) = [qualify space run] := by
    have htypes : names.map (qualify space) ≠ [] := by simpa using hne
    have hkept : ∀ type ∈ names.map (qualify space), type ≠ constantPlaceholder :=
      fun type htype => ne_of_mem_map_qualify htype (by decide)
    have hbuilt := rebuild_map_const htypes hkept (qualify space run)
    rw [List.map_map] at hbuilt
    exact hbuilt
  rw [fold_eq, hresolve, hdeclared, fallbackOf_qualify]
  simp only [hproduced, hrebuild, retypeAll_integer hproper]
  simp [pushNew]

end Reference
end ApiStubs
