import ApiStubs.Proofs.Cli.DryRun
import ApiStubs.Proofs.Emission.Units

/-!
# What a dry run predicts

A dry command reads the same arguments and settings and generates the same units as the
real one, and what it leaves out is the writing.  So it predicts the real command up to the
paths of the units: the real one needs each of them to lead directly into the output
folder, and the dry one does not look at them.
-/

namespace ApiStubs
namespace Emission

variable {place : Files.Place} {options : Generation.Options} {files : List String}
  {units : List Generation.StubUnit}

/-- The output folder can be removed and made again, and then the units whose files are
directly inside it can be written. -/
def Accepts (place : Files.Place) (output : OutputSettings)
    (units : List Generation.StubUnit) : Prop :=
  ∃ cleared, place.tree.Remakes (place.folder.resolve output.folder) cleared ∧
    ∀ stub ∈ units, ∀ name, Files.IsName name →
      fileOf place.folder output stub = place.folder.resolve output.folder ++ [name] →
        ∃ tree, cleared.write (place.folder.resolve output.folder ++ [name]) stub.content =
          .ok tree

/-- Where the folder accepts files, a run succeeds if the dry one does and all names lead
into the folder. -/
theorem run_eq_ok_iff_leads (hplace : place.folder.Normal) (hsound : place.tree.Sound)
    (hdry : (run place options files true).result = .ok units)
    (haccepts : Accepts place options.settings.output units) :
    (run place options files false).result = .ok units ↔
      ∀ stub ∈ units, Leads place.folder options.settings.output stub := by
  rw [run_eq_ok_iff_dry hplace hsound]
  constructor
  · rintro ⟨-, tree, -, hfits⟩
    exact fun stub hstub => (hfits stub hstub).leads
  · intro hleads
    obtain ⟨cleared, hremakes, hwritten⟩ := haccepts
    refine ⟨hdry, cleared, hremakes, ?_⟩
    intro stub hstub
    obtain ⟨name, hname, hinside⟩ := hleads stub hstub
    obtain ⟨hfile, -, -⟩ := Files.resolveWithin_ok hplace hinside
    obtain ⟨tree, hwrite⟩ := hwritten stub hstub name hname hfile.symm
    exact ⟨name, hname, hinside, Files.Tree.admits_of_write (hplace.resolve _) hname hwrite⟩

end Emission

namespace Cli

namespace Arguments

/-- The same arguments for a dry run. -/
def dry (arguments : Arguments) : Arguments :=
  { arguments with dryRun := true }

theorem ofItems_dry (first rest : List Item) :
    ofItems (first ++ .mark .dryRun :: rest) = (ofItems (first ++ rest)).dry := by
  simp [ofItems, dry, List.filterMap_cons, Item.file?, Item.valueOf?]

/-- The mark may stand wherever the arguments before it are complete. -/
theorem parse_dry {first : List String} {reached : Arguments}
    (hfirst : readFrom {} first = .ok reached) (rest : List String) :
    parse (first ++ "--dry-run" :: rest) = (parse (first ++ rest)).map dry := by
  obtain ⟨items, rfl, -⟩ := readFrom_eq_ok_iff.mp hfirst
  have hmarked : ∀ later, Item.spell items ++ "--dry-run" :: Item.spell later =
      Item.spell (items ++ .mark .dryRun :: later) := by
    intro later
    rw [Item.spell_append]
    rfl
  rcases exists_items rest with ⟨later, rfl⟩ | ⟨later, argument, rest, fault, rfl, hoffends⟩
  · rw [hmarked, ← Item.spell_append, parse_spell, parse_spell, ofItems_dry]
    have hfiles : (ofItems (items ++ later)).dry.files = (ofItems (items ++ later)).files := rfl
    rw [hfiles]
    split <;> rfl
  · rw [← List.cons_append, ← List.append_assoc, hmarked, ← List.append_assoc,
      ← Item.spell_append, parse_of_offends _ hoffends, parse_of_offends _ hoffends]
    rfl

end Arguments

/-! ## Answers -/

variable {place : Files.Place} {context : Context} {parsed : Arguments} {settings : Settings}

theorem exitCode_generateWith (colors : Bool) :
    (generateWith place colors parsed settings).exitCode = 0 ↔ ∃ units,
      (Emission.run place { settings, version := parsed.version } parsed.files
        parsed.dryRun).result = .ok units := by
  unfold generateWith
  simp only
  split
  next failure hfailed => simp [hfailed, failed]
  next units hok => simp [hok]

theorem console_generateWith (colors : Bool) {units : List Generation.StubUnit}
    (hok : (Emission.run place { settings, version := parsed.version } parsed.files
      parsed.dryRun).result = .ok units) :
    (generateWith place colors parsed settings).console =
      report parsed.dryRun settings.output units := by
  unfold generateWith
  simp only [hok]

/-- What a dry answer says about the real one. -/
structure Predicts (place : Files.Place) (output : OutputSettings) (dry real : Answer)
    (units : List Generation.StubUnit) : Prop where
  console : dry.console = report true output units
  exitCode_iff : Emission.Accepts place output units →
    (real.exitCode = 0 ↔ ∀ stub ∈ units, Emission.Leads place.folder output stub)
  changes : real.exitCode = 0 →
    real.changes = Emission.changesOf (place.folder.resolve output.folder)
      (Emission.filesOf place.folder output units)
  listed_iff : real.exitCode = 0 → ∀ stub ∈ units,
    (Emission.fileOf place.folder output stub =
        place.folder.resolve output.folder ++ [stub.space ++ output.extension] ↔
      '/' ∉ (stub.space ++ output.extension).toList)

/-- With its settings a real run succeeds only if the dry one does. -/
theorem exitCode_generateWith_dry (hplace : place.folder.Normal) (hsound : place.tree.Sound)
    (colors : Bool) (hreal : parsed.dryRun = false)
    (hexit : (generateWith place colors parsed settings).exitCode = 0) :
    (generateWith place colors parsed.dry settings).exitCode = 0 := by
  rw [exitCode_generateWith, hreal] at hexit
  obtain ⟨units, hok⟩ := hexit
  obtain ⟨hdry, -⟩ := (Emission.run_eq_ok_iff_dry hplace hsound).mp hok
  exact (exitCode_generateWith colors).mpr ⟨units, hdry⟩

theorem predicts_generateWith (hplace : place.folder.Normal) (hsound : place.tree.Sound)
    (colors : Bool) (hreal : parsed.dryRun = false)
    (hexit : (generateWith place colors parsed.dry settings).exitCode = 0) :
    ∃ units, Predicts place settings.output (generateWith place colors parsed.dry settings)
      (generateWith place colors parsed settings) units := by
  obtain ⟨units, hdry⟩ := (exitCode_generateWith colors).mp hexit
  let options : Generation.Options := { settings, version := parsed.version }
  -- A real run has nothing but the units of the dry one to succeed with.
  have hexitReal : (generateWith place colors parsed settings).exitCode = 0 ↔
      (Emission.run place options parsed.files false).result = .ok units := by
    rw [exitCode_generateWith, hreal]
    constructor
    · rintro ⟨others, hok⟩
      have hsame := ((Emission.run_eq_ok_iff_dry hplace hsound).mp hok).1.symm.trans hdry
      rwa [Except.ok.inj hsame] at hok
    · exact fun hok => ⟨units, hok⟩
  refine ⟨units, console_generateWith colors hdry, ?_, ?_, ?_⟩
  · intro haccepts
    rw [hexitReal]
    exact Emission.run_eq_ok_iff_leads hplace hsound hdry haccepts
  · intro hzero
    rw [changes_generateWith, hreal]
    exact (Emission.holds_of_run hplace hsound (hexitReal.mp hzero)).1
  · intro hzero stub hstub
    have hleads := Emission.leads_of_run hplace hsound (hexitReal.mp hzero) stub hstub
    exact Emission.fileOf_eq_iff hplace hleads

/-! ## Command lines -/

variable {arguments : List String} {environment : Settings.Environment}

theorem run_generate_of_noHelp (hlong : "--help" ∉ arguments) (hshort : "-h" ∉ arguments)
    (environment : Settings.Environment) :
    run place ("generate" :: arguments) environment =
      generate place (Context.make none arguments environment) := by
  rw [run_generate, if_neg]
  simp [hlong, hshort]

theorem generate_of_settings (hparsed : Arguments.parse arguments = .ok parsed)
    (hsettings : settingsFor place parsed environment = .ok settings) :
    generate place (Context.make none arguments environment) =
      generateWith place (environment.lookup "NO_COLOR").isNone parsed settings := by
  have harguments : Arguments.parse (Context.make none arguments environment).arguments =
      .ok parsed := hparsed
  have henvironment : settingsFor place parsed
      (Context.make none arguments environment).environment = .ok settings := hsettings
  unfold generate
  simp only [harguments, henvironment]
  rfl

/-- A command that succeeds has read its arguments and its settings. -/
theorem settings_of_exitCode
    (hexit : (generate place (Context.make none arguments environment)).exitCode = 0) :
    ∃ parsed settings, Arguments.parse arguments = .ok parsed ∧
      settingsFor place parsed environment = .ok settings := by
  unfold generate at hexit
  split at hexit
  next => contradiction
  next parsed hparsed =>
    split at hexit
    next => contradiction
    next settings hsettings => exact ⟨parsed, settings, hparsed, hsettings⟩

/--
A command succeeds only if the dry one does.  If the output folder can be cleared and takes
files, it succeeds exactly if every name that the dry one lists leads directly into the
folder.  What it then writes are the listed units, each to the path that its name leads to,
which is the listed name exactly if that holds no slash.
-/
theorem dry_run_predicts (hplace : place.folder.Normal) (hsound : place.tree.Sound)
    {first rest : List String} {reached : Arguments}
    (hfirst : Arguments.readFrom {} first = .ok reached)
    (hreal : "--dry-run" ∉ first ++ rest)
    (hlong : "--help" ∉ first ++ rest) (hshort : "-h" ∉ first ++ rest)
    (environment : Settings.Environment) :
    let dry := run place ("generate" :: (first ++ "--dry-run" :: rest)) environment
    let real := run place ("generate" :: (first ++ rest)) environment
    (real.exitCode = 0 → dry.exitCode = 0) ∧
      (dry.exitCode = 0 → ∃ parsed settings units,
        Arguments.parse (first ++ rest) = .ok parsed ∧
        settingsFor place parsed environment = .ok settings ∧
        Predicts place settings.output dry real units) := by
  intro dry real
  have hdryLine : dry = generate place
      (Context.make none (first ++ "--dry-run" :: rest) environment) := by
    apply run_generate_of_noHelp
    · simpa using hlong
    · simpa using hshort
  have hrealLine : real = generate place (Context.make none (first ++ rest) environment) :=
    run_generate_of_noHelp hlong hshort environment
  have hmarked := Arguments.parse_dry hfirst rest
  cases hparsed : Arguments.parse (first ++ rest) with
  | error fault =>
      rw [hparsed] at hmarked
      constructor
      · intro hexit
        rw [hrealLine] at hexit
        obtain ⟨parsed, settings, hread, -⟩ := settings_of_exitCode hexit
        rw [hparsed] at hread
        contradiction
      · intro hexit
        rw [hdryLine] at hexit
        obtain ⟨marked, settings, hread, -⟩ := settings_of_exitCode hexit
        rw [hmarked] at hread
        contradiction
  | ok parsed =>
      have hnotDry : parsed.dryRun = false :=
        Bool.eq_false_iff.mpr (fun hdry => hreal ((Arguments.parse_dryRun_iff hparsed).mp hdry))
      rw [hparsed] at hmarked
      -- The mark is no setting.
      have hsettingsDry : settingsFor place parsed.dry environment =
          settingsFor place parsed environment := rfl
      constructor
      · intro hexit
        rw [hrealLine] at hexit
        obtain ⟨others, settings, hread, hsettings⟩ := settings_of_exitCode hexit
        rw [hparsed] at hread
        cases hread
        rw [generate_of_settings hparsed hsettings] at hexit
        rw [hdryLine, generate_of_settings hmarked (hsettingsDry.trans hsettings)]
        exact exitCode_generateWith_dry hplace hsound _ hnotDry hexit
      · intro hexit
        rw [hdryLine] at hexit
        obtain ⟨marked, settings, hread, hsettings⟩ := settings_of_exitCode hexit
        rw [hmarked] at hread
        cases hread
        rw [generate_of_settings hmarked hsettings] at hexit
        obtain ⟨units, hpredicts⟩ := predicts_generateWith hplace hsound _ hnotDry hexit
        rw [hdryLine, hrealLine, generate_of_settings hmarked hsettings,
          generate_of_settings hparsed (hsettingsDry.symm.trans hsettings)]
        exact ⟨parsed, settings, units, rfl, hsettings, hpredicts⟩

theorem dry_run_lists_escaping_name :
    let content := "\x7b\"modules\":[\x7b\"namespace\":\"../gui\",\"elements\":" ++
      "[\x7b\"kind\":\"variable\",\"name\":\"gui.a\"\x7d]\x7d]\x7d"
    let place : Files.Place :=
      ⟨["work"], ⟨[(["work"], .folder), (["work", "api.json"], .file content)]⟩⟩
    let dry := run place ["generate", "api.json", "--dry-run"] []
    let real := run place ["generate", "api.json"] []
    (∃ cleared, place.tree.Remakes ["work", "api"] cleared ∧
      ∀ name text, Files.IsName name → name.utf8ByteSize ≤ Files.longestName →
        ∃ tree, cleared.write ["work", "api", name] text = .ok tree) ∧
      dry.exitCode = 0 ∧
      dry.console = [.out "Would write 1 namespaces to api:", .out "  ../gui.lua"] ∧
      real.exitCode = 1 ∧
      real.message =
        some "Failed to write annotations: Path escapes output directory 'api'" := by
  intro content place dry real
  have hremakes : place.tree.Remakes ["work", "api"] (place.tree.makeFolders ["work", "api"]) :=
    ⟨place.tree, by decide +kernel, by decide +kernel, rfl⟩
  have hsound : place.tree.Sound := by decide
  have hholds := hsound.holds_of_remakes (by decide) (by decide) hremakes
  refine ⟨⟨_, hremakes, ?_⟩, by decide +kernel, by decide +kernel, by decide +kernel,
    by decide +kernel⟩
  intro name text hname hlength
  have hroot : Files.Path.Normal ["work", "api"] := by decide
  have hadmits : (place.tree.makeFolders ["work", "api"]).Admits ["work", "api"] name := {
    folder := by decide +kernel
    name_le := hlength
    text_le := by
      have htext : Files.Path.text (["work", "api"] ++ [name]) = "/work/api/" ++ name := by
        simp [Files.Path.text, Text.joinWith, ← String.append_assoc]
      have hway : "/work/api/".utf8ByteSize = 10 := by decide
      rw [htext, String.utf8ByteSize_append, hway]
      exact (Nat.add_le_add_left hlength 10).trans (by decide) }
  have hfree : (place.tree.makeFolders ["work", "api"]).node? (["work", "api"] ++ [name]) ≠
      some .folder := by
    rw [hholds.below _ (List.prefix_append _ _) (by simp)]
    simp
  exact (Files.Tree.write_append_iff hroot hname text).mpr ⟨hadmits, hfree⟩

end Cli
end ApiStubs
