import ApiStubs.Settings.Environment
import ApiStubs.Proofs.Except
import Mathlib.Data.List.Induction
import Mathlib.Logic.Function.Basic

/-!
# What an environment overrides

Each variable that is set overrides its own field, whatever the other variables do.  A
value that its field cannot take changes no field and is reported, so collecting the faults
and stopping at one of them agree up to the first fault.
-/

namespace ApiStubs
namespace Settings

variable (environment : Environment)

/-- The value of a variable that is set, which an empty one is not. -/
def valueOf (v : Variable) : Option String :=
  (environment.lookup v.name).filter (fun value => value ≠ "")

def isTrueWord (value : String) : Bool :=
  Text.lowercase (Text.trim value) ∈ trueWords

/-- The flags that are set are set to one of the words for them. -/
def Coerces : Prop :=
  ∀ v ∈ Variable.all, v.isFlag = true → ∀ value ∈ valueOf environment v,
    Text.lowercase (Text.trim value) ∈ trueWords ++ falseWords

instance : Decidable (Coerces environment) :=
  inferInstanceAs (Decidable (∀ v ∈ Variable.all, _))

def flagOf (v : Variable) : Option Bool :=
  (valueOf environment v).map isTrueWord

/-- The fields that an environment overrides. -/
def overrideOf : Override where
  folder := valueOf environment .folder
  generatorUrl := valueOf environment .generatorUrl
  product := valueOf environment .product
  unknown := valueOf environment .unknownType
  strict := flagOf environment .strict
  debug := flagOf environment .debug

/-! ## What a value is read as -/

namespace Variable

/-- What the field of a variable holds. -/
abbrev Setting : Variable → Type
  | .strict | .debug => Bool
  | .folder | .generatorUrl | .product | .unknownType => String

theorem mem_all (v : Variable) : v ∈ all := by
  cases v <;> decide

end Variable

/-- The flag that a text is a word for. -/
def flagOfWord? (value : String) : Option Bool :=
  if Text.lowercase (Text.trim value) ∈ trueWords then some true
  else if Text.lowercase (Text.trim value) ∈ falseWords then some false
  else none

/-- What the field of a variable takes a value for. -/
def Variable.read? : (v : Variable) → String → Option v.Setting
  | .strict | .debug => flagOfWord?
  | .folder | .generatorUrl | .product | .unknownType => some

def Variable.fault (v : Variable) (value : String) : CoercionFault :=
  ⟨v.name, value, "boolean", flagMessage v.name value⟩

/-- What an environment gives for the field of a variable. -/
def given (v : Variable) : Option v.Setting :=
  (valueOf environment v).bind v.read?

/-- The override with the field of one variable. -/
def Override.put (upper : Override) : (v : Variable) → v.Setting → Override
  | .strict, flag => { upper with strict := some flag }
  | .debug, flag => { upper with debug := some flag }
  | .folder, value => { upper with folder := some value }
  | .generatorUrl, value => { upper with generatorUrl := some value }
  | .product, value => { upper with product := some value }
  | .unknownType, value => { upper with unknown := some value }

/-- The override that gives the fields of some variables and no other ones. -/
def Override.ofVariables (fields : (v : Variable) → Option v.Setting) : Override where
  folder := fields .folder
  generatorUrl := fields .generatorUrl
  product := fields .product
  unknown := fields .unknownType
  strict := fields .strict
  debug := fields .debug

theorem Override.put_ofVariables (fields : (v : Variable) → Option v.Setting) (v : Variable)
    (setting : v.Setting) :
    (ofVariables fields).put v setting = ofVariables (Function.update fields v (some setting)) := by
  cases v <;> rfl

variable {environment} {v : Variable} {value : String} {setting : v.Setting}
  {reading : EnvironmentReading}

theorem readFlagWord_eq (v : Variable) (value : String) :
    readFlagWord v value = (flagOfWord? value).elim (.error (v.fault value)) .ok := by
  rw [readFlagWord, flagOfWord?]
  by_cases htrue : Text.lowercase (Text.trim value) ∈ trueWords
  · rw [if_pos htrue, if_pos htrue, Option.elim_some]
  · rw [if_neg htrue, if_neg htrue]
    by_cases hfalse : Text.lowercase (Text.trim value) ∈ falseWords
    · rw [if_pos hfalse, if_pos hfalse, Option.elim_some]
    · rw [if_neg hfalse, if_neg hfalse, Option.elim_none]
      rfl

theorem applyVariable_of_some (upper : Override) (hread : v.read? value = some setting) :
    applyVariable upper v value = .ok (upper.put v setting) := by
  cases v with
  | strict | debug =>
      have hflag : flagOfWord? value = some setting := hread
      rw [applyVariable, readFlagWord_eq, hflag, Option.elim_some]
      rfl
  | folder | generatorUrl | product | unknownType =>
      cases hread
      rfl

theorem applyVariable_of_none (upper : Override) (hread : v.read? value = none) :
    applyVariable upper v value = .error (v.fault value) := by
  cases v with
  | strict | debug =>
      have hflag : flagOfWord? value = none := hread
      rw [applyVariable, readFlagWord_eq, hflag, Option.elim_none]
      rfl
  | folder | generatorUrl | product | unknownType => contradiction

/-! ## Reading one variable -/

namespace EnvironmentReading

/-- The reading with the field of one more variable. -/
def give (reading : EnvironmentReading) (v : Variable) (setting : v.Setting) :
    EnvironmentReading :=
  { reading with override := reading.override.put v setting, applied := reading.applied ++ [v] }

theorem apply_of_some (hread : v.read? value = some setting) :
    reading.apply v value = .ok (reading.give v setting) := by
  rw [apply, applyVariable_of_some _ hread]
  rfl

theorem apply_of_none (hread : v.read? value = none) :
    reading.apply v value = .error (v.fault value) := by
  rw [apply, applyVariable_of_none _ hread]
  rfl

theorem add_of_some (hread : v.read? value = some setting) :
    reading.add v value = reading.give v setting := by
  rw [add, apply_of_some hread]

theorem add_of_none (hread : v.read? value = none) :
    reading.add v value = { reading with faults := reading.faults ++ [v.fault value] } := by
  rw [add, apply_of_none hread]

/-- A reading with no fault, or its first one. -/
def orFirstFault (reading : EnvironmentReading) : Except CoercionFault EnvironmentReading :=
  match reading.faults with
  | [] => .ok reading
  | fault :: _ => .error fault

theorem orFirstFault_of_nil (hfaults : reading.faults = []) :
    reading.orFirstFault = .ok reading := by
  rw [orFirstFault, hfaults]

theorem orFirstFault_of_cons {fault : CoercionFault} {rest : List CoercionFault}
    (hfaults : reading.faults = fault :: rest) : reading.orFirstFault = .error fault := by
  rw [orFirstFault, hfaults]

end EnvironmentReading

/-! ## Reading all of them -/

def readable (entry : Variable × String) : Bool :=
  (entry.1.read? entry.2).isSome

/-- The override with the field of a variable, unless its value cannot be read. -/
def putEntry (upper : Override) (entry : Variable × String) : Override :=
  (entry.1.read? entry.2).elim upper (upper.put entry.1)

namespace EnvironmentReading

def addAll (reading : EnvironmentReading) (entries : List (Variable × String)) :
    EnvironmentReading :=
  entries.foldl (fun reading entry => reading.add entry.1 entry.2) reading

/-- What was read before stays in front, in the fields, the variables and the faults. -/
theorem addAll_eq (reading : EnvironmentReading) (entries : List (Variable × String)) :
    reading.addAll entries =
      { override := entries.foldl putEntry reading.override
        applied := reading.applied ++ (entries.filter readable).map (·.1)
        faults := reading.faults ++
          (entries.filter (fun entry => !readable entry)).map
            (fun entry => entry.1.fault entry.2) } := by
  induction entries generalizing reading with
  | nil => simp [addAll]
  | cons entry entries ih =>
      rw [addAll, List.foldl_cons, ← addAll, ih]
      cases hread : entry.1.read? entry.2 with
      | some setting => simp [add_of_some hread, give, putEntry, readable, hread]
      | none => simp [add_of_none hread, putEntry, readable, hread]

/-- Until the first fault, stopping and collecting do the same; from then on the first of
the collected faults stays the first. -/
theorem foldlM_apply (hclean : reading.faults = []) (entries : List (Variable × String)) :
    entries.foldlM (fun reading entry => reading.apply entry.1 entry.2) reading =
      (reading.addAll entries).orFirstFault := by
  induction entries generalizing reading with
  | nil => exact (orFirstFault_of_nil hclean).symm
  | cons entry entries ih =>
      rw [List.foldlM_cons, addAll, List.foldl_cons, ← addAll]
      cases hread : entry.1.read? entry.2 with
      | some setting =>
          rw [apply_of_some hread, add_of_some hread, ok_bind]
          exact ih hclean
      | none =>
          rw [apply_of_none hread, add_of_none hread, error_bind, hclean]
          exact (orFirstFault_of_cons (by rw [addAll_eq]; rfl)).symm

end EnvironmentReading

theorem readUntilFault_eq (environment : Environment) :
    readUntilFault environment = (readEnvironment environment).orFirstFault :=
  EnvironmentReading.foldlM_apply rfl (setVariables environment)

/-! ## The variables that are set -/

variable (environment) in
/-- Those of some variables that are set, with their values. -/
def setAmong (vs : List Variable) : List (Variable × String) :=
  vs.filterMap (fun v => (valueOf environment v).map (v, ·))

theorem setVariables_eq : setVariables environment = setAmong environment Variable.all := by
  unfold setVariables setAmong
  congr 1
  funext v
  unfold valueOf
  cases environment.lookup v.name with
  | none => rfl
  | some value => by_cases hvalue : value = "" <;> simp [hvalue, Option.filter]

theorem mem_setAmong {vs : List Variable} {entry : Variable × String} :
    entry ∈ setAmong environment vs ↔
      entry.1 ∈ vs ∧ valueOf environment entry.1 = some entry.2 := by
  obtain ⟨v, value⟩ := entry
  simp only [setAmong, List.mem_filterMap, Option.map_eq_some_iff, Prod.mk.injEq]
  constructor
  · rintro ⟨w, hw, text, htext, rfl, rfl⟩
    exact ⟨hw, htext⟩
  · rintro ⟨hv, hvalue⟩
    exact ⟨v, hv, value, hvalue, rfl, rfl⟩

variable (environment) in
/-- What an environment gives for the fields of some variables. -/
def givenAmong (vs : List Variable) (v : Variable) : Option v.Setting :=
  if v ∈ vs then given environment v else none

theorem givenAmong_all : givenAmong environment Variable.all = given environment := by
  funext v
  rw [givenAmong, if_pos v.mem_all]

theorem givenAmong_concat_of_some (vs : List Variable)
    (hgiven : given environment v = some setting) :
    givenAmong environment (vs ++ [v]) =
      Function.update (givenAmong environment vs) v (some setting) := by
  funext w
  by_cases hw : w = v
  · subst hw
    rw [Function.update_self, givenAmong, if_pos (by simp), hgiven]
  · rw [Function.update_of_ne hw]
    simp [givenAmong, hw]

theorem givenAmong_concat_of_none (vs : List Variable) (hgiven : given environment v = none) :
    givenAmong environment (vs ++ [v]) = givenAmong environment vs := by
  funext w
  by_cases hw : w = v
  · subst hw
    simp [givenAmong, hgiven]
  · simp [givenAmong, hw]

theorem foldl_putEntry_setAmong (vs : List Variable) :
    (setAmong environment vs).foldl putEntry {} =
      .ofVariables (givenAmong environment vs) := by
  induction vs using List.reverseRecOn with
  | nil => rfl
  | append_singleton vs v ih =>
      rw [setAmong, List.filterMap_append, List.foldl_append, ← setAmong, ih]
      cases hvalue : valueOf environment v with
      | none =>
          have hgiven : given environment v = none := by rw [given, hvalue, Option.bind_none]
          rw [givenAmong_concat_of_none vs hgiven]
          simp [hvalue]
      | some value =>
          have hgiven : given environment v = v.read? value := by
            rw [given, hvalue, Option.bind_some]
          cases hread : v.read? value with
          | none =>
              rw [givenAmong_concat_of_none vs (hgiven.trans hread)]
              simp [hvalue, putEntry, hread]
          | some setting =>
              rw [givenAmong_concat_of_some vs (hgiven.trans hread), ← Override.put_ofVariables]
              simp [hvalue, putEntry, hread]

theorem readEnvironment_eq (environment : Environment) :
    readEnvironment environment =
      EnvironmentReading.addAll {} (setAmong environment Variable.all) := by
  rw [← setVariables_eq]
  rfl

theorem override_readEnvironment (environment : Environment) :
    (readEnvironment environment).override = .ofVariables (given environment) := by
  rw [readEnvironment_eq, EnvironmentReading.addAll_eq, foldl_putEntry_setAmong,
    givenAmong_all]

/-! ## An environment without faults -/

theorem flagOfWord?_of_mem (hvalue : Text.lowercase (Text.trim value) ∈ trueWords ++ falseWords) :
    flagOfWord? value = some (isTrueWord value) := by
  unfold flagOfWord? isTrueWord
  split
  next htrue => simp [htrue]
  next htrue =>
    have hfalse : Text.lowercase (Text.trim value) ∈ falseWords :=
      (List.mem_append.mp hvalue).resolve_left htrue
    simp [htrue, hfalse]

theorem given_flag_of_coerces (hcoerces : Coerces environment) :
    given environment .strict = flagOf environment .strict ∧
      given environment .debug = flagOf environment .debug := by
  have hflag : ∀ v ∈ Variable.all, v.isFlag = true →
      (valueOf environment v).bind flagOfWord? = flagOf environment v := by
    intro v hv hisFlag
    cases hvalue : valueOf environment v with
    | none => rw [flagOf, hvalue, Option.bind_none, Option.map_none]
    | some value =>
        rw [flagOf, hvalue, Option.bind_some, Option.map_some]
        exact flagOfWord?_of_mem (hcoerces v hv hisFlag value hvalue)
  exact ⟨hflag .strict (by decide) rfl, hflag .debug (by decide) rfl⟩

theorem readable_of_coerces (hcoerces : Coerces environment) {entry : Variable × String}
    (hentry : entry ∈ setAmong environment Variable.all) : readable entry = true := by
  obtain ⟨v, value⟩ := entry
  obtain ⟨hv, hvalue⟩ := mem_setAmong.mp hentry
  have hword := hcoerces v hv
  unfold readable
  cases v with
  | strict | debug =>
      have hflag : flagOfWord? value = some (isTrueWord value) :=
        flagOfWord?_of_mem (hword rfl value hvalue)
      simp [Variable.read?, hflag]
  | folder | generatorUrl | product | unknownType => rfl

theorem faults_of_coerces (hcoerces : Coerces environment) :
    (readEnvironment environment).faults = [] := by
  have hnone : (setAmong environment Variable.all).filter (fun entry => !readable entry) = [] := by
    rw [List.filter_eq_nil_iff]
    intro entry hentry
    simp [readable_of_coerces hcoerces hentry]
  rw [readEnvironment_eq, EnvironmentReading.addAll_eq, hnone]
  rfl

theorem environmentOverride_of_coerces (hcoerces : Coerces environment) :
    environmentOverride environment = .ok (overrideOf environment) := by
  obtain ⟨hstrict, hdebug⟩ := given_flag_of_coerces hcoerces
  have hoverride : (readEnvironment environment).override = overrideOf environment := by
    rw [override_readEnvironment, Override.ofVariables, hstrict, hdebug, overrideOf]
    simp [given, Variable.read?]
  rw [environmentOverride, readUntilFault_eq,
    EnvironmentReading.orFirstFault_of_nil (faults_of_coerces hcoerces), ← hoverride]
  rfl

end Settings
end ApiStubs
