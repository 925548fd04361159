import ApiStubs.Proofs.Settings.Environment

/-!
# Overriding single fields

An environment is read into the fields of the variables whose values can be read, and no
others.  Merged into settings, these fields replace their own and leave every other one of
their section alone, so merging them once more changes nothing.
-/

namespace ApiStubs
namespace Settings

variable {environment : Environment}

/-- Every variable that is set is applied or at fault, in the order in which they are read,
and the fields that are overridden are those of the applied ones. -/
structure IsReading (environment : Environment) (reading : EnvironmentReading) : Prop where
  applied : reading.applied =
    ((setAmong environment Variable.all).filter readable).map (·.1)
  faults : reading.faults =
    ((setAmong environment Variable.all).filter (fun entry => !readable entry)).map
      (fun entry => entry.1.fault entry.2)
  override : reading.override = .ofVariables (given environment)
  given_iff : ∀ v, (given environment v).isSome = true ↔ v ∈ reading.applied

theorem isSome_given_iff {v : Variable} :
    (given environment v).isSome = true ↔
      v ∈ ((setAmong environment Variable.all).filter readable).map (·.1) := by
  simp only [List.mem_map, List.mem_filter, mem_setAmong]
  constructor
  · intro hgiven
    rw [given, Option.isSome_bind, Option.any_eq_true] at hgiven
    obtain ⟨value, hvalue, hread⟩ := hgiven
    exact ⟨(v, value), ⟨⟨v.mem_all, hvalue⟩, hread⟩, rfl⟩
  · rintro ⟨⟨w, value⟩, ⟨⟨-, hvalue⟩, hread⟩, rfl⟩
    rw [given, hvalue, Option.bind_some]
    exact hread

theorem isReading_readEnvironment (environment : Environment) :
    IsReading environment (readEnvironment environment) := by
  have happlied : (readEnvironment environment).applied =
      ((setAmong environment Variable.all).filter readable).map (·.1) := by
    rw [readEnvironment_eq, EnvironmentReading.addAll_eq]
    rfl
  constructor
  · exact happlied
  · rw [readEnvironment_eq, EnvironmentReading.addAll_eq]
    rfl
  · exact override_readEnvironment environment
  · intro v
    rw [happlied, isSome_given_iff]

/-- The settings with the fields of some variables in the place of their own. -/
def withVariables (settings : Settings) (fields : (v : Variable) → Option v.Setting) :
    Settings :=
  { settings with
    output := {
      settings.output with
      folder := (fields .folder).getD settings.output.folder
      generatorUrl := (fields .generatorUrl).getD settings.output.generatorUrl
      product := (fields .product).getD settings.output.product }
    types := { settings.types with unknown := (fields .unknownType).getD settings.types.unknown }
    generation := {
      strict := (fields .strict).getD settings.generation.strict
      debug := (fields .debug).getD settings.generation.debug } }

theorem merge_ofVariables (settings : Settings) (fields : (v : Variable) → Option v.Setting) :
    settings.merge (.ofVariables fields) = settings.withVariables fields := rfl

theorem merge_merge (settings : Settings) (upper : Override) :
    (settings.merge upper).merge upper = settings.merge upper := by
  have hfield : ∀ {α : Type} (field : Option α) (value : α),
      field.getD (field.getD value) = field.getD value := by
    intro α field value
    cases field <;> rfl
  simp only [merge, hfield]

theorem mergeEnvironment_eq (settings : Settings) (environment : Environment) :
    settings.mergeEnvironment environment =
      (fun _ => settings.withVariables (given environment)) <$>
        (readEnvironment environment).orFirstFault := by
  rw [mergeEnvironment, environmentOverride, readUntilFault_eq]
  cases hfaults : (readEnvironment environment).faults with
  | nil =>
      rw [EnvironmentReading.orFirstFault_of_nil hfaults, ← merge_ofVariables,
        ← override_readEnvironment]
      rfl
  | cons fault rest =>
      rw [EnvironmentReading.orFirstFault_of_cons hfaults]
      rfl

theorem mergeEnvironment_twice (settings : Settings) (environment : Environment) :
    (settings.mergeEnvironment environment >>= fun merged =>
      merged.mergeEnvironment environment) = settings.mergeEnvironment environment := by
  unfold mergeEnvironment
  cases environmentOverride environment with
  | error fault => rfl
  | ok upper => exact congrArg Except.ok (merge_merge settings upper)

/-- The variables of an environment override their own fields alone, and a fault of one of
them keeps no other from its field unless the reading stops there. -/
theorem environment_overrides_own_fields (environment : Environment) (settings : Settings) :
    IsReading environment (readEnvironment environment) ∧
      readUntilFault environment = (readEnvironment environment).orFirstFault ∧
      settings.mergeEnvironment environment =
        (fun _ => settings.withVariables (given environment)) <$>
          (readEnvironment environment).orFirstFault ∧
      (settings.mergeEnvironment environment >>= fun merged =>
        merged.mergeEnvironment environment) = settings.mergeEnvironment environment :=
  ⟨isReading_readEnvironment environment, readUntilFault_eq environment,
    mergeEnvironment_eq settings environment, mergeEnvironment_twice settings environment⟩

example :
    let environment := [("ANNOTATIONS_DEBUG", " Yes "), ("ANNOTATIONS_STRICT", "maybe"),
      ("ANNOTATIONS_PRODUCT", ""), ("ANNOTATIONS_UNKNOWN_TYPE", "unknown")]
    readEnvironment environment = {
      override := { debug := some true, unknown := some "unknown" }
      applied := [.debug, .unknownType]
      faults := [Variable.strict.fault "maybe"] } := by
  decide +kernel

end Settings
end ApiStubs
