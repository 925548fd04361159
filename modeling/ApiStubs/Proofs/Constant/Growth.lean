import ApiStubs.Proofs.Constant.Names

/-!
# How a catalog grows

A catalog changes in two ways: a new constant is put behind the others, and a
constant with the default type is given another one.  So the constants of the
earlier catalog stand at the same places of the later one, with the first type
other than the default that they have been given in the meantime.
-/

namespace ApiStubs

/-- A type that a call gives to a full name. -/
abbrev Typing := String × Primitive

namespace Typing

/-- The first type other than the default that a full name is given. -/
def firstFor (typings : List Typing) (fullName : String) : Primitive :=
  match typings.find? (fun typing => typing.1 = fullName ∧ typing.2 ≠ .integer) with
  | some typing => typing.2
  | none => .integer

@[simp]
theorem firstFor_nil (fullName : String) : firstFor [] fullName = .integer := rfl

theorem firstFor_cons (typing : Typing) (rest : List Typing) (fullName : String) :
    firstFor (typing :: rest) fullName =
      if typing.1 = fullName ∧ typing.2 ≠ .integer then typing.2
      else firstFor rest fullName := by
  unfold firstFor
  rw [List.find?_cons]
  by_cases hgives : typing.1 = fullName ∧ typing.2 ≠ .integer
  · simp [hgives]
  · have hskip : decide (typing.1 = fullName ∧ typing.2 ≠ .integer) = false := by
      simpa using hgives
    rw [hskip, if_neg hgives]

theorem firstFor_append (first second : List Typing) (fullName : String) :
    firstFor (first ++ second) fullName =
      if firstFor first fullName = .integer then firstFor second fullName
      else firstFor first fullName := by
  induction first with
  | nil => simp
  | cons typing rest ih =>
      rw [List.cons_append, firstFor_cons, firstFor_cons, ih]
      by_cases hgives : typing.1 = fullName ∧ typing.2 ≠ .integer
      · simp [hgives]
      · simp [hgives]

end Typing

/-- The constant with the type that it has after the typings. -/
def Constant.retype (typings : List Typing) (constant : Constant) : Constant :=
  constant.withPrimitive (Typing.firstFor typings constant.fullName)

namespace Constant

@[simp]
theorem retype_space (typings : List Typing) (constant : Constant) :
    (constant.retype typings).space = constant.space :=
  withPrimitive_space _ _

@[simp]
theorem retype_name (typings : List Typing) (constant : Constant) :
    (constant.retype typings).name = constant.name :=
  withPrimitive_name _ _

@[simp]
theorem retype_description (typings : List Typing) (constant : Constant) :
    (constant.retype typings).description = constant.description := by
  unfold retype withPrimitive
  split <;> rfl

@[simp]
theorem retype_fullName (typings : List Typing) (constant : Constant) :
    (constant.retype typings).fullName = constant.fullName :=
  withPrimitive_fullName _ _

@[simp]
theorem retype_nil : retype [] = id := by
  funext constant
  exact withPrimitive_integer constant

theorem retype_retype (first second : List Typing) (constant : Constant) :
    (constant.retype first).retype second = constant.retype (first ++ second) := by
  have hname : (constant.retype first).fullName = constant.fullName :=
    retype_fullName first constant
  unfold retype at hname ⊢
  rw [hname, withPrimitive_withPrimitive, Typing.firstFor_append]

theorem retype_eq (typings : List Typing) (constant : Constant) :
    constant.retype typings =
      { constant with primitive := (constant.retype typings).primitive } := by
  have hspace := retype_space typings constant
  have hname := retype_name typings constant
  have hdescription := retype_description typings constant
  cases hretyped : constant.retype typings with
  | mk space name description primitive =>
      rw [hretyped] at hspace hname hdescription
      simp only at hspace hname hdescription
      rw [hspace, hname, hdescription]

/-- A type that earlier typings have settled stays; otherwise the later ones settle it. -/
theorem retype_primitive {constant : Constant} {before : List Typing}
    (hbefore : constant.primitive = Typing.firstFor before constant.fullName)
    (after : List Typing) :
    (constant.retype after).primitive =
      Typing.firstFor (before ++ after) constant.fullName := by
  unfold retype withPrimitive
  rw [Typing.firstFor_append, ← hbefore]
  split <;> rfl

end Constant

namespace Catalog

open Prefix (namesOf)

variable {typings : List Typing} {earlier later : Catalog}

/-- The later catalog holds the constants of the earlier one at their places, with
the types that they have been given, and new constants behind them. -/
def Grows (typings : List Typing) (earlier later : Catalog) : Prop :=
  ∃ new, later.constants = earlier.constants.map (Constant.retype typings) ++ new

theorem Grows.refl (catalog : Catalog) : Grows [] catalog catalog :=
  ⟨[], by simp⟩

theorem Grows.trans {first second third : Catalog} {before after : List Typing}
    (hfirst : Grows before first second) (hsecond : Grows after second third) :
    Grows (before ++ after) first third := by
  obtain ⟨new, hnew⟩ := hfirst
  obtain ⟨newer, hnewer⟩ := hsecond
  have hretyped : Constant.retype after ∘ Constant.retype before =
      Constant.retype (before ++ after) := by
    funext constant
    exact Constant.retype_retype before after constant
  refine ⟨new.map (Constant.retype after) ++ newer, ?_⟩
  rw [hnewer, hnew, List.map_append, List.map_map, hretyped, List.append_assoc]

/-! ## What a growing catalog keeps -/

theorem Grows.lookup (hgrows : Grows typings earlier later) {space name : String}
    {constant : Constant} (hlookup : earlier.lookup space name = some constant) :
    later.lookup space name = some (constant.retype typings) := by
  obtain ⟨new, hnew⟩ := hgrows
  unfold Catalog.lookup at hlookup ⊢
  rw [hnew, List.find?_append, List.find?_map]
  have hkey : ((fun constant : Constant =>
        decide (constant.space = space ∧ constant.name = name)) ∘
        Constant.retype typings) =
      fun constant => decide (constant.space = space ∧ constant.name = name) := by
    funext constant
    simp
  rw [hkey, hlookup]
  rfl

/-- The spaces of the earlier catalog come first, in their order. -/
theorem Grows.spaces (hgrows : Grows typings earlier later) :
    earlier.spaces <+: later.spaces := by
  obtain ⟨new, hnew⟩ := hgrows
  have hspaces : (earlier.constants.map (Constant.retype typings)).map (·.space) =
      earlier.constants.map (·.space) := by
    simp [Function.comp_def]
  unfold Catalog.spaces
  rw [hnew, List.map_append, hspaces, List.eraseDups_append]
  exact List.prefix_append _ _

theorem Grows.constantsOf (hgrows : Grows typings earlier later) (space : String) :
    (earlier.constantsOf space).map (Constant.retype typings) <+:
      later.constantsOf space := by
  obtain ⟨new, hnew⟩ := hgrows
  have hspace : ((fun constant : Constant => decide (constant.space = space)) ∘
        Constant.retype typings) =
      fun constant => decide (constant.space = space) := by
    funext constant
    simp
  unfold Catalog.constantsOf
  rw [hnew, List.filter_append, List.filter_map, hspace]
  exact List.prefix_append _ _

theorem Grows.namesOf (hgrows : Grows typings earlier later) (space : String) :
    namesOf earlier space <+: namesOf later space := by
  have hnames := (hgrows.constantsOf space).map (·.name)
  rw [List.map_map] at hnames
  have hsame : (fun constant : Constant => constant.name) ∘ Constant.retype typings =
      fun constant => constant.name := by
    funext constant
    simp
  rw [hsame] at hnames
  exact hnames

/-- New constants may come between those of the earlier listing, whose order stays. -/
theorem Grows.listing (hgrows : Grows typings earlier later) :
    (earlier.listing.map Constant.fullName).Sublist
      (later.listing.map Constant.fullName) := by
  have hnames : ∀ space,
      ((earlier.constantsOf space).map Constant.fullName).Sublist
        ((later.constantsOf space).map Constant.fullName) := by
    intro space
    have hprefix := (hgrows.constantsOf space).map Constant.fullName
    have hsame : Constant.fullName ∘ Constant.retype typings = Constant.fullName := by
      funext constant
      simp
    rw [List.map_map, hsame] at hprefix
    exact hprefix.sublist
  unfold Catalog.listing
  rw [List.map_flatMap, List.map_flatMap]
  obtain ⟨others, hspaces⟩ := hgrows.spaces
  rw [← hspaces, List.flatMap_append]
  apply List.Sublist.trans _ (List.sublist_append_left _ _)
  induction earlier.spaces with
  | nil => simp
  | cons space rest ih =>
      rw [List.flatMap_cons, List.flatMap_cons]
      exact (hnames space).append ih

/-! ## What makes a catalog grow -/

theorem grows_registerFull (catalog : Catalog) (fullName description : String) :
    Grows [] catalog (catalog.registerFull fullName description).1 := by
  rcases registerFull_cases catalog fullName description with
    hsame | ⟨qualified, -, -, hnew⟩
  · rw [hsame]
    exact Grows.refl catalog
  · refine ⟨[⟨qualified.space, qualified.name, description, .integer⟩], ?_⟩
    rw [hnew]
    simp

theorem setPrimitive_constants {catalog : Catalog} (hproper : catalog.ProperNames)
    (fullName : String) (primitive : Primitive) :
    (catalog.setPrimitive fullName primitive).constants =
      catalog.constants.map (Constant.retype [(fullName, primitive)]) := by
  rw [setPrimitive_eq_map hproper]
  apply List.map_congr_left
  intro constant _
  have hfirst : Typing.firstFor [(fullName, primitive)] constant.fullName =
      if constant.fullName = fullName then primitive else .integer := by
    rw [Typing.firstFor_cons, Typing.firstFor_nil]
    by_cases hname : constant.fullName = fullName
    · by_cases hdefault : primitive = .integer
      · simp [hname, hdefault]
      · simp [hname, hdefault]
    · have hother : fullName ≠ constant.fullName := Ne.symm hname
      simp [hname, hother]
  rw [Constant.retype, hfirst]

/-- The catalog after the typings, one after the other. -/
def giveTypes (catalog : Catalog) (typings : List Typing) : Catalog :=
  typings.foldl (fun catalog typing => catalog.setPrimitive typing.1 typing.2) catalog

theorem giveTypes_cons (catalog : Catalog) (typing : Typing) (rest : List Typing) :
    catalog.giveTypes (typing :: rest) =
      (catalog.setPrimitive typing.1 typing.2).giveTypes rest := rfl

theorem ProperNames.giveTypes {catalog : Catalog} (hproper : catalog.ProperNames)
    (typings : List Typing) : (catalog.giveTypes typings).ProperNames :=
  List.foldlRecOn (motive := Catalog.ProperNames) typings _ hproper
    (fun _ hstep typing _ => hstep.setPrimitive typing.1 typing.2)

theorem giveTypes_constants {catalog : Catalog} (hproper : catalog.ProperNames)
    (typings : List Typing) :
    (catalog.giveTypes typings).constants =
      catalog.constants.map (Constant.retype typings) := by
  induction typings generalizing catalog with
  | nil => simp [giveTypes]
  | cons typing rest ih =>
      have hrest := ih (hproper.setPrimitive typing.1 typing.2)
      have hretyped : Constant.retype rest ∘ Constant.retype [typing] =
          Constant.retype (typing :: rest) := by
        funext constant
        exact Constant.retype_retype [typing] rest constant
      rw [giveTypes_cons, hrest, setPrimitive_constants hproper, List.map_map, hretyped]

theorem grows_giveTypes {catalog : Catalog} (hproper : catalog.ProperNames)
    (typings : List Typing) : Grows typings catalog (catalog.giveTypes typings) := by
  refine ⟨[], ?_⟩
  rw [giveTypes_constants hproper, List.append_nil]

end Catalog
end ApiStubs
