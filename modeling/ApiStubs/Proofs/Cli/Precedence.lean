import ApiStubs.Proofs.Cli.Prediction
import ApiStubs.Proofs.Settings.Environment
import ApiStubs.Proofs.Settings.Reader

/-!
# Where the settings of a command come from

An argument overrides the environment, which overrides the file, which overrides the
defaults.  Each source overrides single fields and leaves the others of their section alone.
-/

namespace ApiStubs
namespace Cli

variable {place : Files.Place} {path? : Option String} {root : Settings.Fields}
  {environment : Settings.Environment} {arguments : List String} {parsed : Arguments}

/-- The document that a command has for its settings. -/
inductive FileGives (place : Files.Place) (path? : Option String) : Settings.Fields → Prop where
  | file (content : String) (root : Settings.Fields) (settings : Settings)
      (hcontent : Files.Tree.contentOf (path?.getD defaultConfigFile)
        (place.tree.follow place.folder (path?.getD defaultConfigFile)) = .ok content)
      (hroot : (Document.Toml.parse? content).bind Document.Value.entries? = some root)
      (hsettings : Settings.readDocument root = .ok settings) : FileGives place path? root
  /-- The default file may be missing, which is as if it were empty. -/
  | missing (obstacle : Files.Obstacle) (hpath : path? = none)
      (hmissing : place.tree.follow place.folder defaultConfigFile = .error obstacle) :
      FileGives place path? []

theorem fileSettings_of_gives (hgives : FileGives place path? root) :
    fileSettings place path? = .ok (Settings.settingsOf root) := by
  unfold fileSettings
  dsimp only
  cases hgives with
  | file content root settings hcontent hroot hsettings =>
      cases hnode : place.tree.follow place.folder (path?.getD defaultConfigFile) with
      | error obstacle =>
          rw [hnode] at hcontent
          contradiction
      | ok node =>
          have hparse : Settings.parse content = .ok (Settings.settingsOf root) := by
            unfold Settings.parse
            rw [hroot, ← Settings.eq_settingsOf_of_readDocument hsettings]
            exact hsettings
          rw [hnode] at hcontent
          dsimp only
          rw [readConfigFile, hnode, hcontent]
          dsimp only [Except.mapError, bind, Except.bind]
          rw [hparse]
  | missing obstacle hpath hmissing =>
      rw [hpath, Option.getD_none, hmissing]
      rfl

/-- The settings of a command line in an environment, over those of a document. -/
def settingsOver (root : Settings.Fields) (environment : Settings.Environment)
    (arguments : List String) : Settings :=
  let base := Settings.settingsOf root
  let variableOf := Settings.valueOf environment
  let flagOf := Settings.flagOf environment
  let folder? := (valuesBehind ["--out", "-o"] arguments).getLast?
  { base with
    output := {
      base.output with
      folder := folder?.getD ((variableOf .folder).getD base.output.folder)
      generatorUrl := (variableOf .generatorUrl).getD base.output.generatorUrl
      product := (variableOf .product).getD base.output.product }
    types := { base.types with unknown := (variableOf .unknownType).getD base.types.unknown }
    generation := {
      strict :=
        if "--strict" ∈ arguments then true
        else (flagOf .strict).getD base.generation.strict
      debug := (flagOf .debug).getD base.generation.debug } }

theorem merge_override (hparsed : Arguments.parse arguments = .ok parsed) :
    ((Settings.settingsOf root).merge (Settings.overrideOf environment)).merge parsed.override =
      settingsOver root environment arguments := by
  have hmark := Arguments.parse_marked_iff hparsed .strict
  unfold Arguments.override settingsOver
  rw [Arguments.parse_outDir hparsed]
  by_cases hstrict : "--strict" ∈ arguments
  · have hset : parsed.strict = true := hmark.mpr hstrict
    simp only [hset, hstrict, if_true]
    rfl
  · have hset : parsed.strict = false :=
      Bool.eq_false_iff.mpr (fun hset => hstrict (hmark.mp hset))
    simp only [hset, hstrict, if_false, Bool.false_eq_true]
    rfl

/--
A command line that is read runs with the settings of its file, of the environment and of
its arguments, each over the one before.
-/
theorem run_uses_settingsOver (hparsed : Arguments.parse arguments = .ok parsed)
    (hcoerces : Settings.Coerces environment)
    (hgives : FileGives place (valuesBehind ["--config", "-c"] arguments).getLast? root) :
    settingsFor place parsed environment = .ok (settingsOver root environment arguments) ∧
      run place ("generate" :: arguments) environment =
        generateWith place (environment.lookup "NO_COLOR").isNone parsed
          (settingsOver root environment arguments) := by
  have hfile : fileSettings place parsed.configPath = .ok (Settings.settingsOf root) := by
    rw [Arguments.parse_configPath hparsed]
    exact fileSettings_of_gives hgives
  have hsettings : settingsFor place parsed environment =
      .ok (settingsOver root environment arguments) := by
    unfold settingsFor loadSettings
    rw [hfile, ← merge_override hparsed]
    dsimp only [bind, Except.bind]
    rw [Settings.mergeEnvironment, Settings.environmentOverride_of_coerces hcoerces]
    rfl
  obtain ⟨hlong, hshort⟩ := Arguments.no_help_of_parse hparsed
  refine ⟨hsettings, ?_⟩
  rw [run_generate_of_noHelp hlong hshort, generate_of_settings hparsed hsettings]

theorem run_uses_settingsOver_of_three_folders :
    let content := "[output]\nfolder = \"file\"\nextension = \".txt\"\nproduct = \"Game\"\n" ++
      "[types]\nextra_known = [\"tile\"]\n"
    let place : Files.Place := ⟨["work"], ⟨[(["work"], .folder),
      (["work", "my.toml"], .file content)]⟩⟩
    let environment := [("ANNOTATIONS_OUTPUT_FOLDER", "env"), ("ANNOTATIONS_STRICT", "off"),
      ("ANNOTATIONS_DEBUG", " Yes "), ("ANNOTATIONS_PRODUCT", "")]
    let arguments := ["-o", "first", "--strict", "a.json", "-c", "my.toml", "--out", "last"]
    let parsed : Arguments := {
      files := ["a.json"], configPath := some "my.toml", outDir := some "last", strict := true }
    let base : Settings := {}
    let settings : Settings := {
      output := { folder := "last", extension := ".txt", product := "Game" }
      types := { known := base.types.known ++ ["tile"] }
      generation := { strict := true, debug := true } }
    Arguments.parse arguments = .ok parsed ∧
      settingsFor place parsed environment = .ok settings ∧
      run place ("generate" :: arguments) environment = generateWith place true parsed settings := by
  intro content place environment arguments parsed base settings
  let document := (Document.Toml.parse? content).bind Document.Value.entries?
  let root := document.getD []
  have hparsed : Arguments.parse arguments = .ok parsed := by decide +kernel
  have hroot : document = some root := by
    have hsome : document.isSome = true := by decide +kernel
    rw [Option.eq_some_of_isSome hsome, Option.get_eq_getD]
  have hok : (Settings.readDocument root).isOk = true := by decide +kernel
  obtain ⟨read, hread⟩ := exists_eq_ok_of_isOk hok
  have hgives : FileGives place (valuesBehind ["--config", "-c"] arguments).getLast? root :=
    .file content root read (by decide +kernel) hroot hread
  have hsettings : settingsOver root environment arguments = settings := by decide +kernel
  have hcoerces : Settings.Coerces environment := by decide +kernel
  have hrun := run_uses_settingsOver hparsed hcoerces hgives
  rw [hsettings] at hrun
  exact ⟨hparsed, hrun⟩

end Cli
end ApiStubs
