import ApiStubs.Proofs.Emission.Footprint
import ApiStubs.Proofs.Files.Inside
import ApiStubs.Proofs.Generation.ModuleOrder
import ApiStubs.Proofs.Generation.Strictness

/-!
# The files of the units

The path of a unit is resolved from its namespace, and a run succeeds only if it leads
directly into the output folder.  Afterwards the folder holds the units and nothing else.
Of units whose namespaces lead to one path only the last is there, so each unit has its
file if no two of them meet.
-/

namespace ApiStubs
namespace Emission

section
open Writing

variable {folder : Files.Path} {output : OutputSettings}

def filesOf (folder : Files.Path) (output : OutputSettings)
    (units : List Generation.StubUnit) : List (Files.Path × String) :=
  units.map (fun stub => (fileOf folder output stub, stub.content))

/-- The name of the unit leads directly into the output folder. -/
def Leads (folder : Files.Path) (output : OutputSettings) (stub : Generation.StubUnit) : Prop :=
  ∃ name, Files.IsName name ∧
    Files.resolveWithin folder output.folder (stub.space ++ output.extension) =
      .ok (folder.resolve output.folder ++ [name])

/-- The file of the unit lies directly inside the output folder, which admits it. -/
def Fits (folder : Files.Path) (output : OutputSettings) (tree : Files.Tree)
    (stub : Generation.StubUnit) : Prop :=
  ∃ name, Files.IsName name ∧
    Files.resolveWithin folder output.folder (stub.space ++ output.extension) =
      .ok (folder.resolve output.folder ++ [name]) ∧
    tree.Admits (folder.resolve output.folder) name

theorem Fits.leads {tree : Files.Tree} {stub : Generation.StubUnit}
    (hfits : Fits folder output tree stub) : Leads folder output stub := by
  obtain ⟨name, hname, hinside, -⟩ := hfits
  exact ⟨name, hname, hinside⟩

/-- The root is cleared and holds the files written since then. -/
structure Progress.Filled (start : Files.Tree) (root : Files.Path)
    (written : List (Files.Path × String)) (progress : Progress) : Prop where
  cleared : progress.Cleared start root written
  holds : progress.tree.Holds root written

variable {start : Files.Tree} {written : List (Files.Path × String)}
  {progress reached : Progress} {stub : Generation.StubUnit}

/-- A name is the path of its file in the folder if and only if it holds no slash. -/
theorem fileOf_eq_iff (hfolder : folder.Normal) (hleads : Leads folder output stub) :
    fileOf folder output stub =
        folder.resolve output.folder ++ [stub.space ++ output.extension] ↔
      '/' ∉ (stub.space ++ output.extension).toList := by
  obtain ⟨name, hname, hinside⟩ := hleads
  obtain ⟨hfile, hbelow, hne⟩ := Files.resolveWithin_ok hfolder hinside
  rw [fileOf]
  constructor
  · intro hsame
    rw [hsame, List.append_cancel_left_eq, List.singleton_inj] at hfile
    rw [← hfile]
    exact hname.noSlash
  · intro hslash
    rw [hfile, Files.Path.resolve_of_noSlash hslash] at hbelow hne
    rw [Files.Path.resolve_of_noSlash hslash]
    exact Files.Path.enter_of_below hbelow hne

/-- Being written and fitting into the folder are one. -/
theorem Progress.Filled.fits_iff (hfolder : folder.Normal)
    (hfilled : progress.Filled start (folder.resolve output.folder) written) :
    Fits folder output progress.tree stub ↔ ∃ path tree,
      Files.resolveWithin folder output.folder (stub.space ++ output.extension) = .ok path ∧
        progress.tree.write path stub.content = .ok tree := by
  have hroot : (folder.resolve output.folder).Normal := hfolder.resolve output.folder
  have hwritten : ∀ path,
      Files.resolveWithin folder output.folder (stub.space ++ output.extension) = .ok path →
        ((∃ tree, progress.tree.write path stub.content = .ok tree) ↔
          ∃ name, Files.IsName name ∧ path = folder.resolve output.folder ++ [name] ∧
            progress.tree.Admits (folder.resolve output.folder) name) := by
    intro path hinside
    obtain ⟨hpath, hbelow, hother⟩ := Files.resolveWithin_ok hfolder hinside
    have hnormal : path.Normal := by
      rw [hpath]
      exact hroot.resolve _
    exact hfilled.holds.write_iff hroot hnormal hbelow hother
  constructor
  · rintro ⟨name, hname, hinside, hadmits⟩
    obtain ⟨tree, hwrite⟩ := (hwritten _ hinside).mpr ⟨name, hname, rfl, hadmits⟩
    exact ⟨_, tree, hinside, hwrite⟩
  · rintro ⟨path, tree, hinside, hwrite⟩
    obtain ⟨name, hname, rfl, hadmits⟩ := (hwritten path hinside).mp ⟨tree, hwrite⟩
    exact ⟨name, hname, hinside, hadmits⟩

theorem Progress.Filled.exists_writeUnit (hfolder : folder.Normal)
    (hfilled : progress.Filled start (folder.resolve output.folder) written)
    (hfits : Fits folder output progress.tree stub) :
    ∃ reached, perform (writeUnit folder output stub) progress = (.ok (), reached) := by
  obtain ⟨path, tree, hinside, hwrite⟩ := (hfilled.fits_iff hfolder).mp hfits
  rw [perform_writeUnit, hinside]
  simp only [hwrite]
  exact ⟨_, rfl⟩

/-- A unit that is written is held by the folder, and what fits into it stays the same. -/
theorem Progress.Filled.writeUnit (hfolder : folder.Normal)
    (hfilled : progress.Filled start (folder.resolve output.folder) written)
    (hok : perform (writeUnit folder output stub) progress = (.ok (), reached)) :
    Fits folder output progress.tree stub ∧
      reached.Filled start (folder.resolve output.folder)
        (written ++ [(fileOf folder output stub, stub.content)]) ∧
      ∀ other, Fits folder output reached.tree other ↔ Fits folder output progress.tree other := by
  have hroot : (folder.resolve output.folder).Normal := hfolder.resolve output.folder
  have hfits : Fits folder output progress.tree stub := by
    rw [hfilled.fits_iff hfolder]
    rcases writeUnit_cases folder output stub progress with
      ⟨fault, hfault⟩ | ⟨path, tree, hinside, hwrite, -⟩
    · rw [hfault] at hok
      cases hok
    · exact ⟨path, tree, hinside, hwrite⟩
  rcases hfilled.cleared.writeUnit hfolder stub with ⟨fault, hfault⟩ | ⟨_, hok', hwrite, hcleared⟩
  · rw [hfault] at hok
    cases hok
  · rw [hok', Prod.mk.injEq] at hok
    obtain ⟨-, rfl⟩ := hok
    obtain ⟨name, hname, hinside, -⟩ := id hfits
    obtain ⟨hfile, -, -⟩ := Files.resolveWithin_ok hfolder hinside
    rw [fileOf, ← hfile] at hwrite hcleared ⊢
    refine ⟨hfits, ⟨hcleared, hfilled.holds.write hname hwrite⟩, ?_⟩
    intro other
    simp only [Fits, Files.Tree.admits_of_write_iff hroot hwrite]

theorem Progress.Filled.forM_writeUnit_iff (hfolder : folder.Normal)
    (hfilled : progress.Filled start (folder.resolve output.folder) written)
    (units : List Generation.StubUnit) :
    (∃ reached, perform (units.forM (Emission.writeUnit folder output)) progress =
        (.ok (), reached)) ↔
      ∀ stub ∈ units, Fits folder output progress.tree stub := by
  induction units generalizing progress written with
  | nil => exact ⟨by simp, fun _ => ⟨progress, rfl⟩⟩
  | cons stub units ih =>
      rw [perform_forM_cons, List.forall_mem_cons]
      rcases hfilled.cleared.writeUnit hfolder stub with ⟨fault, hfault⟩ | ⟨reached, hok, -, -⟩
      · rw [hfault]
        constructor
        · rintro ⟨reached, hreached⟩
          cases hreached
        · rintro ⟨hfits, -⟩
          obtain ⟨reached, hok⟩ := hfilled.exists_writeUnit hfolder hfits
          rw [hfault] at hok
          cases hok
      · -- What fits after this unit has fitted before it, so one tree serves for all units.
        obtain ⟨hfits, hnext, hsame⟩ := hfilled.writeUnit hfolder hok
        rw [hok]
        simp only
        rw [ih hnext]
        simp only [hsame, hfits, true_and]

theorem Progress.Filled.forM_writeUnit (hfolder : folder.Normal)
    (hfilled : progress.Filled start (folder.resolve output.folder) written)
    {units : List Generation.StubUnit}
    (hok : perform (units.forM (Emission.writeUnit folder output)) progress =
      (.ok (), reached)) :
    reached.Filled start (folder.resolve output.folder)
      (written ++ filesOf folder output units) := by
  induction units generalizing progress written with
  | nil =>
      have hsame : progress = reached := congrArg Prod.snd hok
      subst hsame
      simpa [filesOf] using hfilled
  | cons stub units ih =>
      rw [perform_forM_cons] at hok
      rcases hfilled.cleared.writeUnit hfolder stub with ⟨fault, hfault⟩ | ⟨middle, hmiddle, -, -⟩
      · rw [hfault] at hok
        cases hok
      · obtain ⟨-, hnext, -⟩ := hfilled.writeUnit hfolder hmiddle
        rw [hmiddle] at hok
        have hall := ih hnext hok
        rwa [List.append_assoc, List.singleton_append] at hall

theorem remakes_of_clear {begin : Progress}
    (hok : perform (clear folder output) begin = (.ok (), reached)) :
    ¬ Files.Unreadable output.folder ∧
      begin.tree.Remakes (folder.resolve output.folder) reached.tree := by
  rw [perform_clear] at hok
  rcases Files.validate_cases folder output.folder with
    ⟨-, fault, hfault⟩ | ⟨hread, hvalid⟩
  · rw [hfault] at hok
    cases hok
  · rw [hvalid] at hok
    cases hremove : begin.tree.remove (folder.resolve output.folder) with
    | error fault =>
        simp only [hremove] at hok
        cases hok
    | ok removed =>
        simp only [hremove, Prod.mk.injEq, ended_eq_ok_iff] at hok
        obtain ⟨hmade, rfl⟩ := hok
        exact ⟨hread, removed, hremove, hmade, rfl⟩

theorem exists_clear_of_remakes {begin : Progress} {tree : Files.Tree}
    (hread : ¬ Files.Unreadable output.folder)
    (hremakes : begin.tree.Remakes (folder.resolve output.folder) tree) :
    ∃ reached, perform (clear folder output) begin = (.ok (), reached) ∧ reached.tree = tree := by
  obtain ⟨removed, hremove, hmade, rfl⟩ := hremakes
  rw [perform_clear]
  rcases Files.validate_cases folder output.folder with
    ⟨hunreadable, -⟩ | ⟨-, hvalid⟩
  · exact absurd hunreadable hread
  · rw [hvalid]
    simp only [hremove, hmade]
    exact ⟨_, rfl, rfl⟩

theorem filled_of_clear {begin : Progress} (hfolder : folder.Normal)
    (hsound : begin.tree.Sound) (hroot : folder.resolve output.folder ≠ [])
    (hbegin : begin.changes = [])
    (hok : perform (clear folder output) begin = (.ok (), reached)) :
    reached.Filled begin.tree (folder.resolve output.folder) [] := by
  rcases cleared_of_clear folder output hbegin with ⟨fault, hfault⟩ | hcleared
  · rw [hfault] at hok
    cases hok
  · rw [hok] at hcleared
    exact ⟨hcleared,
      hsound.holds_of_remakes (hfolder.resolve _) hroot (remakes_of_clear hok).2⟩

theorem writeAll_iff {begin : Progress} (hfolder : folder.Normal) (hsound : begin.tree.Sound)
    (hroot : folder.resolve output.folder ≠ []) (hbegin : begin.changes = [])
    {units : List Generation.StubUnit} :
    (∃ reached, perform (writeAll folder output units) begin = (.ok (), reached)) ↔
      ¬ Files.Unreadable output.folder ∧
        ∃ tree, begin.tree.Remakes (folder.resolve output.folder) tree ∧
          ∀ stub ∈ units, Fits folder output tree stub := by
  unfold writeAll
  rw [perform_bind]
  constructor
  · rintro ⟨reached, hreached⟩
    cases hclear : perform (clear folder output) begin with
    | mk result middle =>
        rw [hclear] at hreached
        cases result with
        | error fault => cases hreached
        | ok =>
            have hfilled := filled_of_clear hfolder hsound hroot hbegin hclear
            obtain ⟨hread, hremakes⟩ := remakes_of_clear hclear
            exact ⟨hread, middle.tree, hremakes,
              (hfilled.forM_writeUnit_iff hfolder units).mp ⟨reached, hreached⟩⟩
  · rintro ⟨hread, tree, hremakes, hfits⟩
    obtain ⟨middle, hclear, rfl⟩ := exists_clear_of_remakes hread hremakes
    rw [hclear]
    exact ((filled_of_clear hfolder hsound hroot hbegin hclear).forM_writeUnit_iff
      hfolder units).mpr hfits

theorem filled_of_writeAll {begin : Progress} (hfolder : folder.Normal)
    (hsound : begin.tree.Sound) (hroot : folder.resolve output.folder ≠ [])
    (hbegin : begin.changes = []) {units : List Generation.StubUnit}
    (hok : perform (writeAll folder output units) begin = (.ok (), reached)) :
    reached.Filled begin.tree (folder.resolve output.folder) (filesOf folder output units) := by
  unfold writeAll at hok
  rw [perform_bind] at hok
  cases hclear : perform (clear folder output) begin with
  | mk result middle =>
      rw [hclear] at hok
      cases result with
      | error fault => cases hok
      | ok =>
          exact (filled_of_clear hfolder hsound hroot hbegin hclear).forM_writeUnit hfolder hok

end

/-! ## Runs -/

variable {place : Files.Place} {options : Generation.Options} {files : List String}

theorem writeUnits_eq_ok_iff {output : OutputSettings} {units others : List Generation.StubUnit}
    {events : List Event} :
    (writeUnits place output units events).result = .ok others ↔ others = units ∧
      ∃ reached, Writing.perform (writeAll place.folder output units)
        { tree := place.tree, events } = (.ok (), reached) := by
  unfold writeUnits Writing.perform
  split
  next fault progress hperform => simp [hperform]
  next progress hperform => simp [hperform, eq_comm]

theorem run_of_generated {modules : List ApiModule} {units : List Generation.StubUnit}
    (hprepared : prepare place options files = .ok modules)
    (hgenerated : (Generation.generate modules options).result = .ok units) (dry : Bool) :
    run place options files dry =
      if dry then ⟨.ok units, (Generation.generate modules options).events, []⟩
      else writeUnits place options.settings.output units
        (Generation.generate modules options).events := by
  unfold run
  simp only [hprepared, hgenerated]

theorem generated_of_run {dry : Bool} {units : List Generation.StubUnit}
    (hok : (run place options files dry).result = .ok units) : ∃ modules,
      prepare place options files = .ok modules ∧
        (Generation.generate modules options).result = .ok units := by
  cases hprepared : prepare place options files with
  | error failure =>
      unfold run at hok
      simp only [hprepared] at hok
      cases hok
  | ok modules =>
      cases hgenerated : (Generation.generate modules options).result with
      | error failure =>
          unfold run at hok
          simp only [hprepared, hgenerated] at hok
          cases hok
      | ok others =>
          rw [run_of_generated hprepared hgenerated] at hok
          refine ⟨modules, rfl, hgenerated.trans ?_⟩
          cases dry with
          | true => simpa using hok
          | false => rw [(writeUnits_eq_ok_iff.mp hok).1]

theorem writeAll_of_run {modules : List ApiModule} {units : List Generation.StubUnit}
    (hprepared : prepare place options files = .ok modules)
    (hgenerated : (Generation.generate modules options).result = .ok units)
    (hok : (run place options files false).result = .ok units) : ∃ reached,
      Writing.perform (writeAll place.folder options.settings.output units)
        { tree := place.tree, events := (Generation.generate modules options).events } =
          (.ok (), reached) ∧
        (run place options files false).changes = reached.changes := by
  rw [run_of_generated hprepared hgenerated] at hok ⊢
  obtain ⟨-, reached, hreached⟩ := writeUnits_eq_ok_iff.mp hok
  refine ⟨reached, hreached, ?_⟩
  rw [if_neg Bool.false_ne_true, changes_writeUnits, hreached]

theorem readable_of_prepare {modules : List ApiModule} (hplace : place.folder.Normal)
    (hprepared : prepare place options files = .ok modules) :
    ¬ Files.Unreadable options.settings.output.folder := by
  have houtside := checkFolder_ok (prepare_ok hprepared) _ List.mem_cons_self
  rcases Files.contains_cases hplace options.settings.output.folder place.folder.text with
    ⟨-, fault, hfault⟩ | ⟨hread, -⟩
  · rw [hfault] at houtside
    cases houtside
  · exact hread

theorem root_ne_of_prepare {modules : List ApiModule} (hplace : place.folder.Normal)
    (hprepared : prepare place options files = .ok modules) :
    place.folder.resolve options.settings.output.folder ≠ [] := by
  intro hroot
  have houtside := (outside_of_prepare hplace hprepared).1
  rw [hroot] at houtside
  exact houtside List.nil_prefix

/-- A real run succeeds if and only if the dry one does, the output folder can be removed and
made again, and the units fit into it. -/
theorem run_eq_ok_iff_dry (hplace : place.folder.Normal) (hsound : place.tree.Sound)
    {units : List Generation.StubUnit} :
    (run place options files false).result = .ok units ↔
      (run place options files true).result = .ok units ∧
        ∃ tree, place.tree.Remakes (place.folder.resolve options.settings.output.folder) tree ∧
          ∀ stub ∈ units, Fits place.folder options.settings.output tree stub := by
  constructor
  · intro hok
    obtain ⟨modules, hprepared, hgenerated⟩ := generated_of_run hok
    have hroot := root_ne_of_prepare hplace hprepared
    obtain ⟨reached, hreached, -⟩ := writeAll_of_run hprepared hgenerated hok
    obtain ⟨-, hfits⟩ := (writeAll_iff hplace hsound hroot rfl).mp ⟨reached, hreached⟩
    rw [run_of_generated hprepared hgenerated]
    exact ⟨rfl, hfits⟩
  · rintro ⟨hdry, hfits⟩
    obtain ⟨modules, hprepared, hgenerated⟩ := generated_of_run hdry
    have hroot := root_ne_of_prepare hplace hprepared
    have hread := readable_of_prepare hplace hprepared
    rw [run_of_generated hprepared hgenerated]
    exact writeUnits_eq_ok_iff.mpr
      ⟨rfl, (writeAll_iff hplace hsound hroot rfl).mpr ⟨hread, hfits⟩⟩

theorem leads_of_run (hplace : place.folder.Normal) (hsound : place.tree.Sound)
    {units : List Generation.StubUnit}
    (hok : (run place options files false).result = .ok units) :
    ∀ stub ∈ units, Leads place.folder options.settings.output stub := by
  obtain ⟨-, tree, -, hfits⟩ := (run_eq_ok_iff_dry hplace hsound).mp hok
  exact fun stub hstub => (hfits stub hstub).leads

/-- After a run that succeeds the output folder holds the files of its units, each directly
inside it, and of units with one file the last. -/
theorem holds_of_run (hplace : place.folder.Normal) (hsound : place.tree.Sound)
    {units : List Generation.StubUnit}
    (hok : (run place options files false).result = .ok units) :
    let root := place.folder.resolve options.settings.output.folder
    let written := filesOf place.folder options.settings.output units
    let changes := (run place options files false).changes
    changes = changesOf root written ∧
      ∃ tree, Files.Change.applyAll place.tree changes = .ok tree ∧ tree.Holds root written := by
  obtain ⟨modules, hprepared, hgenerated⟩ := generated_of_run hok
  obtain ⟨reached, hreached, hchanges⟩ := writeAll_of_run hprepared hgenerated hok
  have hroot := root_ne_of_prepare hplace hprepared
  obtain ⟨hcleared, hholds⟩ := filled_of_writeAll hplace hsound hroot rfl hreached
  intro root written changes
  have happlied := hcleared.reached
  rw [← hchanges] at happlied
  exact ⟨hchanges.trans hcleared.changes_eq, reached.tree, happlied, hholds⟩

/-! ## Units with a file each -/

/-- A run that succeeds and whose units lead to different files leaves one file for each of
them, with its text, and nothing else in the output folder. -/
theorem one_file_for_each_unit (hplace : place.folder.Normal) (hsound : place.tree.Sound)
    {units : List Generation.StubUnit}
    (hok : (run place options files false).result = .ok units)
    (hdistinct : (units.map (fileOf place.folder options.settings.output)).Nodup) :
    let root := place.folder.resolve options.settings.output.folder
    ∃ tree, Files.Change.applyAll place.tree (run place options files false).changes = .ok tree ∧
      ∀ path, root <+: path → path ≠ root → ∀ node, tree.node? path = some node ↔
        ∃ stub ∈ units, path = fileOf place.folder options.settings.output stub ∧
          node = .file stub.content := by
  intro root
  obtain ⟨-, tree, happlied, hholds⟩ := holds_of_run hplace hsound hok
  have hfiles : ((filesOf place.folder options.settings.output units).map (·.1)).Nodup := by
    rw [filesOf, List.map_map]
    exact hdistinct
  refine ⟨tree, happlied, ?_⟩
  intro path hbelow hother node
  cases node with
  | folder =>
      rw [hholds.below path hbelow hother]
      simp
  | file content =>
      rw [hholds.node?_iff hfiles hbelow hother, filesOf, List.mem_map]
      simp only [Prod.mk.injEq, Files.Node.file.injEq, eq_comm]

/-- Two spellings of one path are two namespaces with one file, so that a run succeeds and
the folder holds the text of the second unit only. -/
theorem one_file_for_two_spellings :
    let moduleOf := fun space name : String => "\x7b\"namespace\":\"" ++ space ++
      "\",\"elements\":[\x7b\"kind\":\"variable\",\"name\":\"" ++ name ++ "\"\x7d]\x7d"
    let content := "\x7b\"modules\":[" ++ moduleOf "./gui" "gui.b" ++ "," ++
      moduleOf "gui" "gui.a" ++ "]\x7d"
    let place : Files.Place :=
      ⟨["work"], ⟨[(["work"], .folder), (["work", "api.json"], .file content)]⟩⟩
    let ended := run place { settings := {}, version := "1" } ["api.json"] false
    ∃ first second : Generation.StubUnit, first.space = "./gui" ∧ second.space = "gui" ∧
      ended.result = .ok [first, second] ∧
      ∃ tree, Files.Change.applyAll place.tree ended.changes = .ok tree ∧
        ∀ path, ["work", "api"] <+: path → path ≠ ["work", "api"] → ∀ node,
          tree.node? path = some node ↔
            path = ["work", "api", "gui.lua"] ∧ node = .file second.content := by
  intro moduleOf content place ended
  let options : Generation.Options := { settings := {}, version := "1" }
  let modules : List ApiModule :=
    [⟨"./gui", "", "", [.variable "gui.b" none]⟩, ⟨"gui", "", "", [.variable "gui.a" none]⟩]
  have hplace : place.folder.Normal := by decide
  have hsound : place.tree.Sound := by decide
  have hprepared : prepare place options ["api.json"] = .ok modules := by decide +kernel
  have hlenient : options.isStrict = false := rfl
  obtain ⟨units, hunits⟩ := Generation.exists_units_of_lenient modules hlenient (by decide)
  -- The sort does not evaluate, so the units are known by their namespaces only.
  have hspaces := Generation.spaces_of_generate_eq_ok hunits
  have horder : Generation.order modules = modules := List.mergeSort_of_pairwise (by decide)
  rw [horder] at hspaces
  obtain ⟨first, second, rfl, hfirst, hsecond⟩ : ∃ first second : Generation.StubUnit,
      units = [first, second] ∧ first.space = "./gui" ∧ second.space = "gui" := by
    have hnames : units.map (·.space) = ["./gui", "gui"] := hspaces.trans (by decide)
    simpa [List.map_eq_cons_iff, and_assoc] using hnames
  have hfits : ∀ stub ∈ [first, second], Fits place.folder options.settings.output
      (place.tree.makeFolders ["work", "api"]) stub := by
    have hadmits : (place.tree.makeFolders ["work", "api"]).Admits ["work", "api"] "gui.lua" :=
      ⟨by decide +kernel, by decide, by decide⟩
    have hroot : place.folder.resolve options.settings.output.folder = ["work", "api"] := by
      decide +kernel
    intro stub hstub
    rw [Fits, hroot]
    simp only [List.mem_cons, List.not_mem_nil, or_false] at hstub
    rcases hstub with rfl | rfl
    · exact ⟨"gui.lua", by decide, by rw [hfirst]; decide +kernel, hadmits⟩
    · exact ⟨"gui.lua", by decide, by rw [hsecond]; decide +kernel, hadmits⟩
  have hdry : (run place options ["api.json"] true).result = .ok [first, second] := by
    rw [run_of_generated hprepared hunits]
    rfl
  have hremakes : place.tree.Remakes ["work", "api"] (place.tree.makeFolders ["work", "api"]) :=
    ⟨place.tree, by decide +kernel, by decide +kernel, rfl⟩
  have hok : ended.result = .ok [first, second] :=
    (run_eq_ok_iff_dry hplace hsound).mpr ⟨hdry, _, hremakes, hfits⟩
  refine ⟨first, second, hfirst, hsecond, hok, ?_⟩
  obtain ⟨-, tree, happlied, hholds⟩ := holds_of_run hplace hsound hok
  refine ⟨tree, happlied, ?_⟩
  intro path hbelow hother node
  have hfile : ∀ stub : Generation.StubUnit, stub.space = "./gui" ∨ stub.space = "gui" →
      fileOf place.folder options.settings.output stub = ["work", "api", "gui.lua"] := by
    rintro stub (hspace | hspace)
    · rw [fileOf, hspace]
      decide +kernel
    · rw [fileOf, hspace]
      decide +kernel
  have hwritten : filesOf place.folder options.settings.output [first, second] =
      [(["work", "api", "gui.lua"], first.content),
        (["work", "api", "gui.lua"], second.content)] := by
    rw [filesOf, List.map_cons, List.map_singleton, hfile first (.inl hfirst),
      hfile second (.inr hsecond)]
  rw [hholds.below path hbelow hother, hwritten]
  by_cases hpath : path = ["work", "api", "gui.lua"]
  · simp [hpath, eq_comm]
  · have hdiffers : (path == ["work", "api", "gui.lua"]) = false := beq_eq_false_iff_ne.mpr hpath
    simp [hpath, List.lookup_cons, hdiffers]

end Emission
end ApiStubs
