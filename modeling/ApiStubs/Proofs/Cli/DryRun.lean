import ApiStubs.Cli.Command
import ApiStubs.Proofs.Cli.Arguments
import ApiStubs.Proofs.Emission

/-!
# Runs that leave the files alone

All that can fail before the writing fails without a change.  The option for a dry run
cannot be taken for the value of another one, so a command line that has it is either
refused or run dry.
-/

namespace ApiStubs
namespace Cli

namespace Arguments

theorem parse_dryRun_iff {parsed : Arguments} {rest : List String}
    (hparsed : parse rest = .ok parsed) : parsed.dryRun = true ↔ "--dry-run" ∈ rest :=
  parse_marked_iff hparsed .dryRun

end Arguments

theorem changes_generateWith (place : Files.Place) (colors : Bool) (arguments : Arguments)
    (settings : Settings) :
    (generateWith place colors arguments settings).changes =
      (Emission.run place { settings, version := arguments.version } arguments.files
        arguments.dryRun).changes := by
  unfold generateWith
  simp only
  split <;> rfl

theorem changes_helpFor (topic : String) : (helpFor topic).changes = [] := by
  unfold helpFor
  split <;> rfl

/-- A dry generate command changes nothing, however it ends. -/
theorem changes_generate_dry (place : Files.Place) {context : Context}
    (hdry : "--dry-run" ∈ context.arguments) : (generate place context).changes = [] := by
  unfold generate
  split
  next => rfl
  next arguments hparsed =>
    split
    next => rfl
    next settings _ =>
      have hmark := (Arguments.parse_dryRun_iff hparsed).mpr hdry
      rw [changes_generateWith, hmark]
      exact Emission.changes_dry place _ _

theorem run_generate (place : Files.Place) (arguments : List String)
    (environment : Settings.Environment) :
    run place ("generate" :: arguments) environment =
      if arguments.contains "--help" || arguments.contains "-h" then helpFor "generate"
      else generate place (Context.make none arguments environment) := rfl

/-- A run that fails before it writes and a dry command leave the files as they were. -/
theorem changes_failed_or_dry (place : Files.Place) :
    (∀ (options : Generation.Options) (files : List String) (dry : Bool)
        (failure : Emission.Failure),
      (Emission.run place options files dry).result = .error failure →
      failure.stage?.map Emission.Stage.code ≠ some "FILE_WRITE_ERROR" →
      (Emission.run place options files dry).changes = []) ∧
    ∀ (arguments : List String) (environment : Settings.Environment),
      "--dry-run" ∈ arguments →
      (run place ("generate" :: arguments) environment).changes = [] := by
  constructor
  · intro options files dry failure hfailed hcode
    apply Emission.changes_of_error hfailed
    intro hwriting
    rw [hwriting] at hcode
    exact hcode rfl
  · intro arguments environment hdry
    rw [run_generate]
    split
    next => exact changes_helpFor "generate"
    next => exact changes_generate_dry place hdry

theorem changes_failed_or_dry_of_old_output :
    let content := "\x7b\"modules\":[\x7b\"namespace\":\"gui\",\"elements\":" ++
      "[\x7b\"kind\":\"constant\",\"name\":\"gui.A\"\x7d]\x7d]\x7d"
    let place : Files.Place := ⟨["work"], ⟨[(["work"], .folder),
      (["work", "api.json"], .file content), (["work", "api"], .folder),
      (["work", "api", "old.lua"], .file "return old")]⟩⟩
    let failed := Emission.run place { settings := {}, version := "1" } ["api.json", "api.txt"] false
    let failure : Emission.Failure := .modules (.unknownExtension ".txt" "api.txt")
    let dry := run place ["generate", "api.json", "--dry-run"] []
    failed.result = .error failure ∧
      failure.stage?.map Emission.Stage.code ≠ some "FILE_WRITE_ERROR" ∧ failed.changes = [] ∧
      "--dry-run" ∈ ["api.json", "--dry-run"] ∧ dry.exitCode = 0 ∧ dry.changes = [] := by
  intro content place failed failure dry
  have hresult : failed.result = .error failure := by decide +kernel
  have hcode : failure.stage?.map Emission.Stage.code ≠ some "FILE_WRITE_ERROR" := by decide
  have hdry : "--dry-run" ∈ ["api.json", "--dry-run"] := by decide
  obtain ⟨hfailed, hgenerate⟩ := changes_failed_or_dry place
  exact ⟨hresult, hcode, hfailed _ _ _ failure hresult hcode, hdry, by decide +kernel,
    hgenerate _ [] hdry⟩

end Cli
end ApiStubs
