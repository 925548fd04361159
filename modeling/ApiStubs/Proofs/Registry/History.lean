import ApiStubs.Proofs.Alias.MemberSets
import ApiStubs.Proofs.Constant.Growth
import ApiStubs.Proofs.Reference.Resolution
import Mathlib.Data.List.Induction

/-!
# The history of a registry

Five kinds of calls write to a registry, in any order.  Whatever the calls are, the
state after them holds all earlier states: constants and aliases are not lost and
stay where they are, and members are only added behind the others.  The type of a
constant is what the calls since its registration make of it, by the first of them
that gives it a type other than the default.
-/

namespace ApiStubs

theorem Ledger.Grows.get? {earlier later : Ledger} (hgrows : Ledger.Grows earlier later)
    (hdistinct : later.Distinct) {space name : String} {a : Alias}
    (hget : earlier.get? space name = some a) :
    ∃ members, later.get? space name = some { a with members } ∧ a.members <+: members := by
  have ha : a ∈ earlier.aliases := List.mem_of_find?_eq_some hget
  have hkey := Ledger.get?_key hget
  obtain ⟨b, hb, hspace, hname, hmembers⟩ := hgrows a ha
  have hlater : later.get? space name = some b := by
    rw [Ledger.get?_eq_some_iff hdistinct]
    exact ⟨hb, hspace.trans hkey.1, hname.trans hkey.2⟩
  refine ⟨b.members, ?_, hmembers⟩
  rw [hlater, ← hspace, ← hname]

namespace Registry

/-- What calls have made of a registry: everything is still there, in its place. -/
structure Extends (earlier later : Registry) : Prop where
  constants : ∀ space name constant,
    earlier.catalog.lookup space name = some constant →
      ∃ primitive, later.catalog.lookup space name = some { constant with primitive }
  spaces : earlier.catalog.spaces <+: later.catalog.spaces
  names : ∀ space,
    Prefix.namesOf earlier.catalog space <+: Prefix.namesOf later.catalog space
  listing : (earlier.catalog.listing.map Constant.fullName).Sublist
    (later.catalog.listing.map Constant.fullName)
  aliases : ∀ space name a, earlier.ledger.get? space name = some a →
    ∃ members, later.ledger.get? space name = some { a with members } ∧
      a.members <+: members

/-- A call that writes to a registry. -/
inductive Call where
  | registerConstant (fullName description : String)
  | setPrimitive (fullName : String) (primitive : Primitive)
  | registerAlias (space name : String) (members : List String)
  | infer
  | fold (request : Reference.Request)

namespace Call

def perform : Call → Registry → Registry
  | registerConstant fullName description, registry =>
      { registry with
        catalog := (registry.catalog.registerFull fullName description).1 }
  | setPrimitive fullName primitive, registry =>
      { registry with catalog := registry.catalog.setPrimitive fullName primitive }
  | registerAlias space name members, registry =>
      { registry with ledger := (registry.ledger.register space name members).1 }
  | infer, registry => (Prefix.infer registry).registry
  | fold request, registry => (Reference.fold registry request).1

/-- The types that a call gives, in order.  Folding gives its fallback to each constant
that it replaces. -/
def typings : Call → Registry → List Typing
  | setPrimitive fullName primitive, _ => [(fullName, primitive)]
  | fold request, registry =>
      (Reference.resolve registry request).2.map
        (fun pair => (pair.1, Reference.fallbackOf request.declared))
  | _, _ => []

/-- A call registers a constant, or it gives types and does nothing else to the
catalog. -/
theorem perform_catalog (call : Call) (registry : Registry) :
    (∃ fullName description, call = .registerConstant fullName description) ∨
      (call.perform registry).catalog =
        registry.catalog.giveTypes (call.typings registry) := by
  cases call with
  | registerConstant fullName description => exact .inl ⟨fullName, description, rfl⟩
  | setPrimitive fullName primitive => exact .inr rfl
  | registerAlias space name members => exact .inr rfl
  | infer => exact .inr (Prefix.infer_catalog registry)
  | fold request =>
      right
      rw [perform, Reference.fold_registry, typings, Catalog.giveTypes, List.foldl_map]
      rfl

/-! ## One call -/

/-- Names can be read back, and no two aliases have the same one. -/
structure Tidy (registry : Registry) : Prop where
  properNames : registry.catalog.ProperNames
  distinct : registry.ledger.Distinct

theorem tidy_empty : Tidy {} :=
  ⟨wellFormed_empty.properNames, wellFormed_empty.distinct⟩

theorem grows_perform (call : Call) {registry : Registry} (htidy : Tidy registry) :
    Catalog.Grows (call.typings registry) registry.catalog (call.perform registry).catalog := by
  rcases call.perform_catalog registry with ⟨fullName, description, rfl⟩ | hgiven
  · exact Catalog.grows_registerFull _ fullName description
  · rw [hgiven]
    exact Catalog.grows_giveTypes htidy.properNames _

theorem ledger_grows_perform (call : Call) (registry : Registry) :
    Ledger.Grows registry.ledger (call.perform registry).ledger := by
  cases call with
  | registerConstant fullName description => exact Ledger.Grows.refl _
  | setPrimitive fullName primitive => exact Ledger.Grows.refl _
  | registerAlias space name members => exact Ledger.grows_register _ space name members
  | infer => exact Prefix.grows_infer registry
  | fold request => exact Reference.grows_fold registry request

theorem distinct_perform (call : Call) {registry : Registry}
    (hdistinct : registry.ledger.Distinct) : (call.perform registry).ledger.Distinct := by
  cases call with
  | registerConstant fullName description => exact hdistinct
  | setPrimitive fullName primitive => exact hdistinct
  | registerAlias space name members => exact hdistinct.register space name members
  | infer =>
      refine (Prefix.infer_induct
        (motive := fun inference => inference.registry.ledger.Distinct)
        registry hdistinct ?_).1
      intro inference space group hinference _ _
      rw [Prefix.addGroup_registry]
      exact hinference.register _ _ _
  | fold request =>
      rw [perform, Reference.fold_registry]
      apply List.foldlRecOn
        (motive := fun state : Ledger × Reference.Substitution => state.1.Distinct)
        _ Reference.foldSpace hdistinct
      intro state hstate group _
      rcases Reference.foldSpace_cases state.1 state.2 group.1 group.2 with
        ⟨run, -, -, hfold⟩ | hfold
      · rw [hfold]
        exact hstate.register _ _ _
      · rw [hfold]
        exact hstate

theorem Tidy.perform {registry : Registry} (htidy : Tidy registry) (call : Call) :
    Tidy (call.perform registry) where
  properNames := by
    rcases call.perform_catalog registry with ⟨fullName, description, rfl⟩ | hgiven
    · exact htidy.properNames.registerFull fullName description
    · rw [hgiven]
      exact htidy.properNames.giveTypes _
  distinct := call.distinct_perform htidy.distinct

/-! ## Many calls -/

/-- The registry after calls, one after the other. -/
def performAll (registry : Registry) (calls : List Call) : Registry :=
  calls.foldl (fun registry call => call.perform registry) registry

/-- The types that the calls give, in order. -/
def typingsAll (registry : Registry) : List Call → List Typing
  | [] => []
  | call :: rest => call.typings registry ++ typingsAll (call.perform registry) rest

theorem performAll_append (registry : Registry) (first second : List Call) :
    performAll registry (first ++ second) = performAll (performAll registry first) second :=
  List.foldl_append

theorem typingsAll_append (registry : Registry) (first second : List Call) :
    typingsAll registry (first ++ second) =
      typingsAll registry first ++ typingsAll (performAll registry first) second := by
  induction first generalizing registry with
  | nil => rfl
  | cons call rest ih =>
      rw [List.cons_append, typingsAll, typingsAll, ih, List.append_assoc]
      rfl

theorem Tidy.performAll {registry : Registry} (htidy : Tidy registry) (calls : List Call) :
    Tidy (Call.performAll registry calls) :=
  List.foldlRecOn (motive := Tidy) calls _ htidy (fun _ hstep call _ => hstep.perform call)

theorem grows_performAll {registry : Registry} (htidy : Tidy registry) (calls : List Call) :
    Catalog.Grows (typingsAll registry calls) registry.catalog
      (performAll registry calls).catalog := by
  induction calls generalizing registry with
  | nil => exact Catalog.Grows.refl _
  | cons call rest ih => exact (call.grows_perform htidy).trans (ih (htidy.perform call))

theorem ledger_grows_performAll (registry : Registry) (calls : List Call) :
    Ledger.Grows registry.ledger (performAll registry calls).ledger :=
  List.foldlRecOn
    (motive := fun reached : Registry => Ledger.Grows registry.ledger reached.ledger)
    calls _ (Ledger.Grows.refl _)
    (fun reached hreached call _ => hreached.trans (call.ledger_grows_perform reached))

theorem extends_performAll {registry : Registry} (htidy : Tidy registry)
    (calls : List Call) : registry.Extends (performAll registry calls) := by
  have hgrows := grows_performAll htidy calls
  have hlater := htidy.performAll calls
  constructor
  · intro space name constant hlookup
    have hkept := hgrows.lookup hlookup
    rw [Constant.retype_eq] at hkept
    exact ⟨_, hkept⟩
  · exact hgrows.spaces
  · exact hgrows.namesOf
  · exact hgrows.listing
  · intro space name a hget
    exact (ledger_grows_performAll registry calls).get? hlater.distinct hget

/-- The call that registered a constant, and the types that it was given after it. -/
def RegisteredBy (calls : List Call) (constant : Constant) : Prop :=
  ∃ before after,
    calls = before ++ .registerConstant constant.fullName constant.description :: after ∧
      ¬ (performAll {} before).catalog.Registered constant.space constant.name ∧
      constant.primitive = Typing.firstFor
        (typingsAll (performAll {} (before ++
          [.registerConstant constant.fullName constant.description])) after)
        constant.fullName

/-- A constant that is there before a last call was registered by one of the others. -/
theorem RegisteredBy.retype {calls : List Call} {old : Constant}
    (hold : RegisteredBy calls old) (call : Call) :
    RegisteredBy (calls ++ [call]) (old.retype (call.typings (performAll {} calls))) := by
  obtain ⟨before, after, hcalls, hnew, hprimitive⟩ := hold
  have hreached : performAll {} calls =
      performAll (performAll {} (before ++
        [.registerConstant old.fullName old.description])) after := by
    rw [← performAll_append, List.append_assoc, List.singleton_append, ← hcalls]
  refine ⟨before, after ++ [call], ?_, ?_, ?_⟩
  · rw [hcalls, List.append_assoc, List.cons_append, Constant.retype_fullName,
      Constant.retype_description]
  · simpa using hnew
  · rw [Constant.retype_primitive hprimitive, Constant.retype_fullName,
      Constant.retype_description, typingsAll_append, hreached]
    simp [typingsAll]

theorem registeredBy_of_mem (calls : List Call) :
    ∀ constant ∈ (performAll {} calls).catalog.constants, RegisteredBy calls constant := by
  -- From the last call backwards: it has registered the constant or found it there.
  induction calls using List.reverseRecOn with
  | nil => simp [performAll]
  | append_singleton calls call ih =>
      intro constant hconstant
      have htidy := tidy_empty.performAll calls
      have hlast : performAll {} (calls ++ [call]) = call.perform (performAll {} calls) :=
        performAll_append {} calls [call]
      rw [hlast] at hconstant
      rcases call.perform_catalog (performAll {} calls) with
        ⟨fullName, description, rfl⟩ | hgiven
      · rcases Catalog.registerFull_cases (performAll {} calls).catalog fullName description
          with hsame | ⟨qualified, hread, hnew, hregister⟩
        · rw [perform, hsame] at hconstant
          have hkept := (ih constant hconstant).retype (.registerConstant fullName description)
          simpa [typings] using hkept
        · rw [perform, hregister] at hconstant
          rcases List.mem_append.mp hconstant with hold | hadded
          · have hkept := (ih constant hold).retype (.registerConstant fullName description)
            simpa [typings] using hkept
          · rw [List.mem_singleton] at hadded
            have hname : qualified.text = fullName :=
              (QualifiedName.ofText?_eq_some_iff.mp hread).2
            subst hadded hname
            exact ⟨calls, [], rfl, hnew, rfl⟩
      · rw [hgiven, Catalog.giveTypes_constants htidy.properNames] at hconstant
        obtain ⟨old, hold, rfl⟩ := List.mem_map.mp hconstant
        exact (ih old hold).retype call

/-- Of any two states of a run the later one extends the earlier one, and in each state
every constant stems from the one call that registered it and has the first type other
than the default that its full name was given since then. -/
theorem performAll_keeps_history (earlier later : List Call) :
    (performAll {} earlier).Extends (performAll {} (earlier ++ later)) ∧
    ∀ constant ∈ (performAll {} (earlier ++ later)).catalog.constants,
      RegisteredBy (earlier ++ later) constant := by
  refine ⟨?_, registeredBy_of_mem (earlier ++ later)⟩
  rw [performAll_append]
  exact extends_performAll (tidy_empty.performAll earlier) later

/-- A type given before the registration is lost, the fallback of the fold is taken, and
what comes after it is too late. -/
theorem performAll_keeps_history_of_folded_mode :
    let earlier : List Call := [
      .setPrimitive "gui.MODE_ON" .hash, .registerConstant "gui.MODE_ON" "On",
      .registerConstant "gui.MODE_OFF" "Off"]
    let later : List Call := [
      .infer, .fold { types := ["gui.MODE_ON", "gui.MODE_OFF", "string"] },
      .setPrimitive "gui.MODE_ON" .hash, .registerAlias "gui" "MODE" ["gui.ALL", "gui.MODE_ON"],
      .registerConstant "gui.MODE_ON" "Again"]
    let reached := performAll {} (earlier ++ later)
    let mode : Constant := ⟨"gui", "MODE_ON", "On", .string⟩
    (performAll {} earlier).Extends reached ∧
      reached.ledger.aliases = [⟨"gui", "MODE", ["gui.MODE_ON", "gui.MODE_OFF", "gui.ALL"]⟩] ∧
      mode ∈ reached.catalog.constants ∧ RegisteredBy (earlier ++ later) mode := by
  intro earlier later reached mode
  have hhistory := performAll_keeps_history earlier later
  have hmode : mode ∈ reached.catalog.constants := by decide +kernel
  exact ⟨hhistory.1, by decide +kernel, hmode, hhistory.2 mode hmode⟩

end Call
end Registry
end ApiStubs
