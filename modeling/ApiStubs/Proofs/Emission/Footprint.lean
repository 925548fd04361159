import ApiStubs.Proofs.Emission

/-!
# Where a run leaves its traces

A run that writes first removes and makes the output folder, which holds neither the
folder it works in nor a module file, and then writes files strictly below it.
-/

namespace ApiStubs
namespace Emission

/-- The changes of a run that has cleared its root and then written these files. -/
def changesOf (root : Files.Path) (written : List (Files.Path × String)) : List Files.Change :=
  .remove root :: .makeFolders root :: written.map (fun file => .write file.1 file.2)

theorem within_of_mem_changesOf {root : Files.Path} {written : List (Files.Path × String)}
    (hbelow : ∀ file ∈ written, root <+: file.1 ∧ file.1 ≠ root) :
    ∀ change ∈ changesOf root written, change.Within root := by
  intro change hchange
  rcases List.mem_cons.mp hchange with rfl | hrest
  · exact .remove
  · rcases List.mem_cons.mp hrest with rfl | hfiles
    · exact .makeFolders
    · obtain ⟨file, hfile, rfl⟩ := List.mem_map.mp hfiles
      exact .write file.2 (hbelow file hfile).1 (hbelow file hfile).2

/-- The path that a unit is written to. -/
def fileOf (folder : Files.Path) (output : OutputSettings) (stub : Generation.StubUnit) :
    Files.Path :=
  (folder.resolve output.folder).resolve (stub.space ++ output.extension)

/-- The root is cleared, and the files written since then are strictly below it. -/
structure Progress.Cleared (start : Files.Tree) (root : Files.Path)
    (written : List (Files.Path × String)) (progress : Progress) : Prop where
  changes_eq : progress.changes = changesOf root written
  below : ∀ file ∈ written, root <+: file.1 ∧ file.1 ≠ root
  reached : Files.Change.applyAll start progress.changes = .ok progress.tree

section
open Writing

variable {folder : Files.Path} {output : OutputSettings}

theorem cleared_of_clear (folder : Files.Path) (output : OutputSettings) {start : Progress}
    (hstart : start.changes = []) :
    (∃ fault, perform (clear folder output) start = (.error fault, start)) ∨
      (perform (clear folder output) start).2.Cleared start.tree
        (folder.resolve output.folder) [] := by
  rcases clear_cases folder output start with ⟨fault, hfault⟩ | ⟨tree, hremove, hcleared⟩
  · exact .inl ⟨fault, hfault⟩
  · rw [hcleared]
    refine .inr ⟨?_, by simp, ?_⟩
    · simp [hstart, changesOf, Progress.remade]
    · have hroot : Files.Change.apply start.tree (.remove (folder.resolve output.folder)) =
          .ok tree := hremove
      rw [Progress.remade, hstart, List.nil_append, Files.Change.applyAll, List.foldlM_cons,
        hroot]
      rfl

variable {start : Files.Tree} {written : List (Files.Path × String)} {progress : Progress}

/-- A unit that is written adds its file, which is below the root. -/
theorem Progress.Cleared.writeUnit (hfolder : folder.Normal)
    (hcleared : progress.Cleared start (folder.resolve output.folder) written)
    (stub : Generation.StubUnit) :
    (∃ fault, perform (writeUnit folder output stub) progress = (.error fault, progress)) ∨
      ∃ reached, perform (writeUnit folder output stub) progress = (.ok (), reached) ∧
        progress.tree.write (fileOf folder output stub) stub.content = .ok reached.tree ∧
        reached.Cleared start (folder.resolve output.folder)
          (written ++ [(fileOf folder output stub, stub.content)]) := by
  rcases writeUnit_cases folder output stub progress with
    ⟨fault, hfault⟩ | ⟨path, tree, hwithin, hwrite, hwritten⟩
  · exact .inl ⟨fault, hfault⟩
  · obtain ⟨rfl, hbelow, hne⟩ := Files.resolveWithin_ok hfolder hwithin
    refine .inr ⟨_, hwritten, hwrite, ?_, ?_, ?_⟩
    · simp [hcleared.changes_eq, changesOf, fileOf]
    · intro file hfile
      rcases List.mem_append.mp hfile with hold | hnew
      · exact hcleared.below file hold
      · rw [List.mem_singleton] at hnew
        subst hnew
        exact ⟨hbelow, hne⟩
    · apply Files.Change.applyAll_append hcleared.reached
      have hlast : Files.Change.apply progress.tree
          (.write (fileOf folder output stub) stub.content) = .ok tree := hwrite
      rw [Files.Change.applyAll, List.foldlM_cons]
      exact congrArg (· >>= _) hlast

/-- However far the units are written, the files so far are below the root. -/
theorem Progress.Cleared.forM_writeUnit (hfolder : folder.Normal)
    (hcleared : progress.Cleared start (folder.resolve output.folder) written)
    (units : List Generation.StubUnit) :
    ∃ all, (perform (units.forM (Emission.writeUnit folder output)) progress).2.Cleared start
      (folder.resolve output.folder) all := by
  induction units generalizing progress written with
  | nil => exact ⟨written, hcleared⟩
  | cons stub units ih =>
      rw [perform_forM_cons]
      rcases hcleared.writeUnit hfolder stub with ⟨fault, hfault⟩ | ⟨reached, hok, -, hnext⟩
      · rw [hfault]
        exact ⟨written, hcleared⟩
      · rw [hok]
        exact ih hnext

/-- Writing either changes nothing or clears the root and writes files below it. -/
theorem changes_writeAll (hfolder : folder.Normal) (units : List Generation.StubUnit)
    (begin : Progress) (hbegin : begin.changes = []) :
    (perform (writeAll folder output units) begin).2 = begin ∨
      ∃ written, (perform (writeAll folder output units) begin).2.Cleared begin.tree
        (folder.resolve output.folder) written := by
  unfold writeAll
  rw [perform_bind]
  rcases cleared_of_clear folder output hbegin with ⟨fault, hfault⟩ | hcleared
  · rw [hfault]
    exact .inl rfl
  · cases hclear : perform (clear folder output) begin with
    | mk result reached =>
        rw [hclear] at hcleared
        cases result with
        | error fault =>
            -- Nothing is written into a folder that could not be made.
            exact .inr ⟨[], hcleared⟩
        | ok => exact .inr (hcleared.forM_writeUnit hfolder units)

end

/-- What the checks before a run let through is outside the output folder. -/
theorem outside_of_prepare {place : Files.Place} {options : Generation.Options}
    {files : List String} {modules : List ApiModule} (hplace : place.folder.Normal)
    (hprepared : prepare place options files = .ok modules) :
    let root := place.folder.resolve options.settings.output.folder
    ¬ root <+: place.folder ∧ ∀ file ∈ files, ¬ root <+: place.folder.resolve file := by
  intro root
  have hchecked := checkFolder_ok (prepare_ok hprepared)
  have houtside : ∀ target ∈ place.folder.text :: files,
      ¬ root <+: place.folder.resolve target := by
    intro target htarget hbelow
    have hfound := (Files.isPrefix_iff_of_contains hplace (hchecked target htarget)).mpr hbelow
    contradiction
  constructor
  · have hself := houtside place.folder.text List.mem_cons_self
    rw [Files.Path.resolve_text hplace] at hself
    exact hself
  · exact fun file hfile => houtside file (List.mem_cons_of_mem _ hfile)

/--
A run makes no change at all, or it removes and makes the output folder and then writes
files strictly below it.  In that case neither the folder it works in nor a module file is
at or below the output folder.  The tree differs from the one before only at and below
the output folder and in folders on the way to it that were missing.
-/
theorem changes_of_run (place : Files.Place) (options : Generation.Options)
    (files : List String) (dry : Bool) (hplace : place.folder.Normal) :
    let root := place.folder.resolve options.settings.output.folder
    let changes := (run place options files dry).changes
    (∃ tree, Files.Change.applyAll place.tree changes = .ok tree ∧
      place.tree.KeptOutside root tree) ∧
    (changes = [] ∨
      (¬ root <+: place.folder ∧ ∀ file ∈ files, ¬ root <+: place.folder.resolve file) ∧
      ∃ written, changes = changesOf root written ∧
        ∀ file ∈ written, root <+: file.1 ∧ file.1 ≠ root) := by
  intro root changes
  have hnone : changes = [] → ∃ tree, Files.Change.applyAll place.tree changes = .ok tree ∧
      place.tree.KeptOutside root tree := by
    intro hchanges
    rw [hchanges]
    exact ⟨place.tree, rfl, Files.Tree.KeptOutside.refl root place.tree⟩
  rcases run_cases place options files dry with
    ⟨failure, events, hrun, -⟩ | ⟨units, events, hrun, -⟩ | ⟨modules, units, hprepared, -, -, hrun⟩
  · have hchanges : changes = [] := congrArg Outcome.changes hrun
    exact ⟨hnone hchanges, .inl hchanges⟩
  · have hchanges : changes = [] := congrArg Outcome.changes hrun
    exact ⟨hnone hchanges, .inl hchanges⟩
  · let begin : Progress := {
      tree := place.tree
      events := (Generation.generate modules options).events }
    have hchanges : changes = (Writing.perform
        (writeAll place.folder options.settings.output units) begin).2.changes := by
      have hwrite : changes = (writeUnits place options.settings.output units
          (Generation.generate modules options).events).changes := congrArg Outcome.changes hrun
      rw [hwrite, changes_writeUnits]
    rcases changes_writeAll hplace units begin rfl with hsame | ⟨written, hcleared⟩
    · rw [hsame] at hchanges
      exact ⟨hnone hchanges, .inl hchanges⟩
    · have hall : changes = changesOf root written := hchanges.trans hcleared.changes_eq
      have hreached := hcleared.reached
      rw [← hchanges] at hreached
      have hwithin : ∀ change ∈ changes, change.Within root := by
        rw [hall]
        exact within_of_mem_changesOf hcleared.below
      exact ⟨⟨_, hreached, Files.Change.keptOutside_applyAll (hplace.resolve _) hwithin hreached⟩,
        .inr ⟨outside_of_prepare hplace hprepared, written, hall, hcleared.below⟩⟩

theorem changes_of_run_of_one_constant :
    let content := "\x7b\"modules\":[\x7b\"namespace\":\"gui\",\"elements\":" ++
      "[\x7b\"kind\":\"constant\",\"name\":\"gui.A\"\x7d]\x7d]\x7d"
    let place : Files.Place :=
      ⟨["work"], ⟨[(["work"], .folder), (["work", "api.json"], .file content)]⟩⟩
    let changes := (run place { settings := {}, version := "1" } ["api.json"] false).changes
    place.folder.Normal ∧
      (∃ tree, Files.Change.applyAll place.tree changes = .ok tree ∧
        place.tree.KeptOutside ["work", "api"] tree) ∧
      ¬ ["work", "api"] <+: ["work", "api.json"] ∧
      ∃ file, changes = changesOf ["work", "api"] [file] ∧
        ["work", "api"] <+: file.1 ∧ file.1 ≠ ["work", "api"] := by
  intro content place changes
  have hplace : place.folder.Normal := by decide
  obtain ⟨hkept, hnone | ⟨houtside, written, hall, hbelow⟩⟩ :=
    changes_of_run place { settings := {}, version := "1" } ["api.json"] false hplace
  · have hsome : changes ≠ [] := by decide +kernel
    exact absurd hnone hsome
  · have hlength : changes.length = 3 := by decide +kernel
    have hwritten : written.length = 1 := by
      have hcount : changes.length = written.length + 2 := by
        rw [show changes = _ from hall]
        simp [changesOf]
      omega
    obtain ⟨file, rfl⟩ := List.length_eq_one_iff.mp hwritten
    exact ⟨hplace, hkept, houtside.2 "api.json" List.mem_cons_self, file, hall,
      hbelow file List.mem_cons_self⟩

end Emission
end ApiStubs
