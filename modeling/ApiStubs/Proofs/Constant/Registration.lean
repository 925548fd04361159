import ApiStubs.Proofs.Constant.Catalog

/-!
# What registrations by full name leave behind

The constants of a catalog are the readable names of the elements that it was built from, each
once and where it first came up, so the catalog is fixed by the names and by what the first
element with each of them says.  A readable name is read in one way only, so a constant is found under its full name as
it is under its parts, and the listing is the same constants sorted by their spaces.
-/

namespace ApiStubs

/-- The name that a constant is registered under. -/
def Constant.qualified (constant : Constant) : QualifiedName :=
  ⟨constant.space, constant.name⟩

namespace Catalog

/-- The catalog that registrations by full name build from nothing. -/
def ofElements (elements : List (String × String)) : Catalog :=
  elements.foldl (fun catalog element => (catalog.registerFull element.1 element.2).1) {}

def readNames (elements : List (String × String)) : List QualifiedName :=
  elements.filterMap (fun element => QualifiedName.ofText? element.1)

theorem mem_readNames {elements : List (String × String)} {qualified : QualifiedName} :
    qualified ∈ readNames elements ↔
      ∃ element ∈ elements, QualifiedName.ofText? element.1 = some qualified :=
  List.mem_filterMap

variable {catalog : Catalog} {elements : List (String × String)} {constant : Constant}

/-! ## The constants of a catalog -/

theorem mem_qualified_iff {qualified : QualifiedName} :
    qualified ∈ catalog.constants.map Constant.qualified ↔
      catalog.Registered qualified.space qualified.name := by
  rw [List.mem_map]
  constructor
  · rintro ⟨constant, hmem, rfl⟩
    exact ⟨constant, hmem, rfl, rfl⟩
  · rintro ⟨constant, hmem, hspace, hname⟩
    refine ⟨constant, hmem, ?_⟩
    rw [Constant.qualified, hspace, hname]

theorem Distinct.lookup_eq_some_iff (hdistinct : catalog.Distinct) {space name : String} :
    catalog.lookup space name = some constant ↔
      constant ∈ catalog.constants ∧ constant.space = space ∧ constant.name = name := by
  have hlookup : catalog.lookup space name =
      catalog.constants.find? (fun other => (other.space, other.name) = (space, name)) := by
    simp only [lookup, Prod.mk.injEq]
  rw [hlookup, Keyed.find?_eq_some_iff hdistinct, Prod.mk.injEq]

theorem lookupFull_eq_some_iff (hproper : catalog.ProperNames) (hdistinct : catalog.Distinct)
    {fullName : String} :
    catalog.lookupFull fullName = some constant ↔
      constant ∈ catalog.constants ∧ constant.fullName = fullName := by
  rw [lookupFull, Option.bind_eq_some_iff]
  constructor
  · rintro ⟨qualified, hread, hlookup⟩
    obtain ⟨hmem, hspace, hname⟩ := hdistinct.lookup_eq_some_iff.mp hlookup
    refine ⟨hmem, (fullName_eq_iff (hproper constant hmem)).mpr ?_⟩
    rw [hread, hspace, hname]
  · rintro ⟨hmem, hfull⟩
    exact ⟨_, (fullName_eq_iff (hproper constant hmem)).mp hfull,
      hdistinct.lookup_eq_some_iff.mpr ⟨hmem, rfl, rfl⟩⟩

/-- A full name is read in one way, so it tells the constant. -/
theorem nodup_fullNames (hproper : catalog.ProperNames) (hdistinct : catalog.Distinct) :
    (catalog.constants.map Constant.fullName).Nodup := by
  apply List.Nodup.map_on _ hdistinct.of_map
  intro first hfirst second hsecond hsame
  have hfound : catalog.lookupFull first.fullName = some first :=
    (lookupFull_eq_some_iff hproper hdistinct).mpr ⟨hfirst, rfl⟩
  rw [hsame, (lookupFull_eq_some_iff hproper hdistinct).mpr ⟨hsecond, rfl⟩] at hfound
  exact (Option.some.inj hfound).symm

/-! ## The listing -/

theorem mem_constantsOf {space : String} :
    constant ∈ catalog.constantsOf space ↔
      constant ∈ catalog.constants ∧ constant.space = space := by
  rw [constantsOf, List.mem_filter, decide_eq_true_eq]

theorem Distinct.listing_perm (hdistinct : catalog.Distinct) :
    catalog.listing.Perm catalog.constants := by
  apply Keyed.flatMap_perm (Keyed.nodup_eraseDups _) hdistinct.of_map _ mem_constantsOf
  · intro constant hmem
    rw [List.mem_eraseDups]
    exact List.mem_map_of_mem hmem
  · exact fun space => hdistinct.of_map.filter _

/-- Spaces are listed as they first come up in the names, and so are the names of each. -/
theorem qualified_listing {names : List QualifiedName}
    (hnames : catalog.constants.map Constant.qualified = names.eraseDups) :
    catalog.listing.map Constant.qualified =
      (names.map (·.space)).eraseDups.flatMap
        (fun space => (names.filter (·.space = space)).eraseDups) := by
  have hspaces : catalog.spaces = (names.map (·.space)).eraseDups := by
    rw [← Keyed.eraseDups_map_eraseDups, ← hnames, List.map_map]
    rfl
  rw [listing, List.map_flatMap, hspaces]
  congr 1
  funext space
  rw [← Keyed.filter_eraseDups, ← hnames, List.filter_map]
  rfl

/-! ## Registering the elements -/

theorem ofElements_concat (elements : List (String × String)) (element : String × String) :
    ofElements (elements ++ [element]) =
      ((ofElements elements).registerFull element.1 element.2).1 := by
  rw [ofElements, List.foldl_append]
  rfl

theorem properNames_ofElements (elements : List (String × String)) :
    (ofElements elements).ProperNames :=
  List.foldlRecOn (motive := ProperNames) elements _ (by simp [ProperNames])
    (fun _ hstep element _ => hstep.registerFull element.1 element.2)

theorem distinct_ofElements (elements : List (String × String)) :
    (ofElements elements).Distinct :=
  List.foldlRecOn (motive := Distinct) elements _ (by simp [Distinct])
    (fun _ hstep element _ => hstep.registerFull element.1 element.2)

theorem primitive_ofElements (hmem : constant ∈ (ofElements elements).constants) :
    constant.primitive = .integer := by
  have hall : ∀ constant ∈ (ofElements elements).constants, constant.primitive = .integer := by
    refine List.foldlRecOn
      (motive := fun catalog : Catalog => ∀ constant ∈ catalog.constants,
        constant.primitive = .integer) elements _ (by simp) ?_
    intro catalog hcatalog element _ constant hmem
    rcases mem_registerFull hmem with hold | ⟨_, -, rfl⟩
    · exact hcatalog constant hold
    · rfl
  exact hall constant hmem

theorem qualified_registerFull (catalog : Catalog) (fullName description : String) :
    (catalog.registerFull fullName description).1.constants.map Constant.qualified =
      match QualifiedName.ofText? fullName with
      | none => catalog.constants.map Constant.qualified
      | some qualified =>
          if qualified ∈ catalog.constants.map Constant.qualified then
            catalog.constants.map Constant.qualified
          else catalog.constants.map Constant.qualified ++ [qualified] := by
  unfold registerFull register
  cases hread : QualifiedName.ofText? fullName with
  | none => rfl
  | some qualified =>
      cases hlookup : catalog.lookup qualified.space qualified.name with
      | none =>
          have hnew : qualified ∉ catalog.constants.map Constant.qualified := by
            rw [mem_qualified_iff]
            exact lookup_eq_none_iff.mp hlookup
          simp only [hlookup, if_neg hnew, List.map_append, List.map_singleton]
          rfl
      | some held =>
          have hknown : qualified ∈ catalog.constants.map Constant.qualified := by
            rw [mem_qualified_iff, ← isSome_lookup_iff, hlookup]
            rfl
          simp only [hlookup, if_pos hknown]

theorem qualified_ofElements (elements : List (String × String)) :
    (ofElements elements).constants.map Constant.qualified = (readNames elements).eraseDups := by
  -- The last element meets the catalog that all others have built.
  induction elements using List.reverseRecOn with
  | nil => rfl
  | append_singleton elements element ih =>
      have hnames : readNames (elements ++ [element]) =
          readNames elements ++ (QualifiedName.ofText? element.1).toList := by
        rw [readNames, List.filterMap_append]
        cases hread : QualifiedName.ofText? element.1 <;> simp [readNames, hread]
      rw [ofElements_concat, qualified_registerFull, hnames, ih]
      cases QualifiedName.ofText? element.1 with
      | none => simp
      | some qualified =>
          simp only [Option.toList_some, Keyed.eraseDups_concat, List.mem_eraseDups]

theorem registered_ofElements_iff {space name : String} :
    (ofElements elements).Registered space name ↔ ⟨space, name⟩ ∈ readNames elements := by
  rw [← List.mem_eraseDups, ← qualified_ofElements, mem_qualified_iff]

theorem mem_fullNames_ofElements_iff {text : String} :
    text ∈ (ofElements elements).constants.map Constant.fullName ↔
      text ∈ elements.map Prod.fst ∧ (QualifiedName.ofText? text).isSome = true := by
  have hfull : (ofElements elements).constants.map Constant.fullName =
      (readNames elements).eraseDups.map QualifiedName.text := by
    rw [← qualified_ofElements, List.map_map]
    rfl
  rw [hfull, List.mem_map]
  constructor
  · rintro ⟨qualified, hmem, rfl⟩
    obtain ⟨element, helement, hread⟩ := mem_readNames.mp (List.mem_eraseDups.mp hmem)
    rw [(QualifiedName.ofText?_eq_some_iff.mp hread).2, hread]
    exact ⟨List.mem_map_of_mem helement, rfl⟩
  · rintro ⟨hnamed, hreadable⟩
    obtain ⟨element, helement, rfl⟩ := List.mem_map.mp hnamed
    obtain ⟨qualified, hread⟩ := Option.isSome_iff_exists.mp hreadable
    exact ⟨qualified, List.mem_eraseDups.mpr (mem_readNames.mpr ⟨element, helement, hread⟩),
      (QualifiedName.ofText?_eq_some_iff.mp hread).2⟩

/-- A constant says what the first element with its full name says. -/
theorem description_ofElements (hmem : constant ∈ (ofElements elements).constants) :
    (elements.find? (fun element => element.1 = constant.fullName)).map Prod.snd =
      some constant.description := by
  induction elements using List.reverseRecOn generalizing constant with
  | nil => simp [ofElements] at hmem
  | append_singleton elements element ih =>
      have hold : constant ∈ (ofElements elements).constants →
          ((elements ++ [element]).find? (fun element => element.1 = constant.fullName)).map
            Prod.snd = some constant.description := by
        intro hmem
        obtain ⟨first, hfirst, hsays⟩ := Option.map_eq_some_iff.mp (ih hmem)
        rw [List.find?_append, hfirst, Option.some_or, Option.map_some, hsays]
      rw [ofElements_concat] at hmem
      rcases registerFull_cases (ofElements elements) element.1 element.2 with
        hsame | ⟨qualified, hread, hnew, hregister⟩
      · rw [hsame] at hmem
        exact hold hmem
      · rw [hregister] at hmem
        rcases List.mem_append.mp hmem with hearlier | hlast
        · exact hold hearlier
        · rw [List.mem_singleton] at hlast
          have hfull : constant.fullName = element.1 := by
            rw [hlast]
            exact (QualifiedName.ofText?_eq_some_iff.mp hread).2
          -- An earlier element with this name would have registered it.
          have hfirst : elements.find? (fun element => element.1 = constant.fullName) = none := by
            rw [List.find?_eq_none]
            intro earlier hearlier hsame
            apply hnew
            rw [registered_ofElements_iff, mem_readNames]
            refine ⟨earlier, hearlier, ?_⟩
            rw [of_decide_eq_true hsame, hfull, hread]
          have helement :
              [element].find? (fun element => element.1 = constant.fullName) = some element :=
            List.find?_cons_of_pos (decide_eq_true hfull.symm)
          rw [List.find?_append, hfirst, Option.none_or, helement, Option.map_some, hlast]

/-! ## The representation -/

/-- What a catalog holds after registrations by full name. -/
structure Represents (elements : List (String × String)) (catalog : Catalog) : Prop where
  nodup_fullNames : (catalog.listing.map Constant.fullName).Nodup
  mem_fullNames_iff : ∀ text, text ∈ catalog.listing.map Constant.fullName ↔
    text ∈ elements.map Prod.fst ∧ (QualifiedName.ofText? text).isSome = true
  fullName_eq : ∀ constant ∈ catalog.listing,
    constant.fullName = qualify constant.space constant.name ∧ '.' ∉ constant.name.toList
  /-- The description is that of the first element with the name. -/
  description : ∀ constant ∈ catalog.listing,
    (elements.find? (fun element => element.1 = constant.fullName)).map Prod.snd =
      some constant.description
  lookup : ∀ constant ∈ catalog.listing,
    catalog.lookup constant.space constant.name = some constant ∧
      catalog.lookupFull constant.fullName = some constant
  lookupFull_eq_none : ∀ text, text ∉ catalog.listing.map Constant.fullName →
    catalog.lookupFull text = none
  /-- Spaces, and the names of each, stand in the order in which they first came up. -/
  order : catalog.listing.map Constant.qualified =
    ((readNames elements).map (·.space)).eraseDups.flatMap
      (fun space => ((readNames elements).filter (·.space = space)).eraseDups)
  size : catalog.size = catalog.listing.length

theorem represents_ofElements (elements : List (String × String)) :
    Represents elements (ofElements elements) := by
  have hproper := properNames_ofElements elements
  have hdistinct := distinct_ofElements elements
  have hperm := hdistinct.listing_perm
  have hnames := hperm.map Constant.fullName
  constructor
  case nodup_fullNames => exact hnames.nodup_iff.mpr (nodup_fullNames hproper hdistinct)
  case mem_fullNames_iff =>
    intro text
    rw [hnames.mem_iff, mem_fullNames_ofElements_iff]
  case fullName_eq =>
    intro constant hmem
    exact ⟨rfl, (hproper constant (hperm.mem_iff.mp hmem)).noDot⟩
  case description =>
    intro constant hmem
    exact description_ofElements (hperm.mem_iff.mp hmem)
  case lookup =>
    intro constant hmem
    have hheld := hperm.mem_iff.mp hmem
    exact ⟨hdistinct.lookup_eq_some_iff.mpr ⟨hheld, rfl, rfl⟩,
      (lookupFull_eq_some_iff hproper hdistinct).mpr ⟨hheld, rfl⟩⟩
  case lookupFull_eq_none =>
    intro text hnone
    rw [Option.eq_none_iff_forall_not_mem]
    intro constant hfound
    obtain ⟨hheld, rfl⟩ := (lookupFull_eq_some_iff hproper hdistinct).mp hfound
    exact hnone (List.mem_map_of_mem (hperm.mem_iff.mpr hheld))
  case order => exact qualified_listing (qualified_ofElements elements)
  case size => exact hperm.length_eq.symm

/-- The spaces are `"."` and `"gui"`; the short name is what stands behind the last dot. -/
example : (ofElements [("..A", "first"), ("gui.B", ""), (".B", ""), ("..C", ""),
    ("gui.", ""), ("..A", "second")]).listing =
    [⟨".", "A", "first", .integer⟩, ⟨".", "C", "", .integer⟩, ⟨"gui", "B", "", .integer⟩] := by
  decide +kernel

end Catalog
end ApiStubs
