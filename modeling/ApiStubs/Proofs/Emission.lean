import ApiStubs.Emission
import ApiStubs.Proofs.Files.Tree

/-!
# How a run can end

A run fails before it writes, or stops after generating because it is dry, or writes.
Writing is a sequence of steps each of which makes its change or fails without one.
-/

namespace ApiStubs
namespace Emission

/-! ## Checks before a run -/

theorem checkFolder_ok {folder : Files.Path} {output : String} {targets : List String}
    (hchecked : checkFolder folder output targets = .ok ()) :
    ∀ target ∈ targets, Files.contains folder output target = .ok false := by
  induction targets with
  | nil => simp
  | cons first targets ih =>
      rw [checkFolder] at hchecked
      split at hchecked
      next => contradiction
      next => contradiction
      next hfirst =>
        intro target htarget
        rcases List.mem_cons.mp htarget with rfl | hrest
        · exact hfirst
        · exact ih hchecked target hrest

theorem checkFolder_error {folder : Files.Path} {output : String} {targets : List String}
    {failure : Failure} (hfailed : checkFolder folder output targets = .error failure) :
    (∃ target, failure = .folderInUse output target) ∨ ∃ fault, failure = .invalidPath fault := by
  induction targets with
  | nil => contradiction
  | cons first targets ih =>
      rw [checkFolder] at hfailed
      split at hfailed
      next fault _ => exact .inr ⟨fault, (Except.error.inj hfailed).symm⟩
      next => exact .inl ⟨first, (Except.error.inj hfailed).symm⟩
      next => exact ih hfailed

variable {place : Files.Place} {options : Generation.Options} {files : List String}

theorem prepare_eq (place : Files.Place) (options : Generation.Options) (files : List String) :
    prepare place options files =
      if options.settings.check != [] then .error (.defects options.settings.check)
      else
        match checkFolder place.folder options.settings.output.folder
            (place.folder.text :: files) with
        | .error failure => .error failure
        | .ok _ => (ApiModule.load place files).mapError .modules := by
  unfold prepare
  simp only
  split
  next => rfl
  next =>
    cases checkFolder place.folder options.settings.output.folder
      (place.folder.text :: files) <;> rfl

theorem prepare_ok {modules : List ApiModule}
    (hprepared : prepare place options files = .ok modules) :
    checkFolder place.folder options.settings.output.folder (place.folder.text :: files) =
      .ok () := by
  rw [prepare_eq] at hprepared
  split at hprepared
  next => contradiction
  next =>
    split at hprepared
    next => contradiction
    next hchecked => exact hchecked

theorem prepare_error {failure : Failure}
    (hfailed : prepare place options files = .error failure) :
    failure.stage? ≠ some .writing := by
  rw [prepare_eq] at hfailed
  split at hfailed
  next =>
    rw [← Except.error.inj hfailed]
    simp [Failure.stage?]
  next =>
    split at hfailed
    next fault hchecked =>
      rw [← Except.error.inj hfailed]
      rcases checkFolder_error hchecked with ⟨target, rfl⟩ | ⟨fault, rfl⟩ <;>
        simp [Failure.stage?]
    next =>
      cases hload : ApiModule.load place files with
      | error fault =>
          rw [hload] at hfailed
          rw [← Except.error.inj hfailed]
          simp [Failure.stage?]
      | ok modules =>
          rw [hload] at hfailed
          contradiction

/-! ## Writing step by step -/

namespace Writing

variable {α β : Type}

def perform (action : Writing α) (progress : Progress) : Except WriteFault α × Progress :=
  action.run.run progress

theorem perform_bind (action : Writing α) (next : α → Writing β) (progress : Progress) :
    perform (action >>= next) progress =
      match perform action progress with
      | (.error fault, reached) => (.error fault, reached)
      | (.ok value, reached) => perform (next value) reached := by
  unfold perform
  rw [ExceptT.run_bind, StateT.run_bind]
  rcases action.run.run progress with ⟨_ | _, reached⟩ <;> rfl

theorem perform_forM_cons (action : α → Writing Unit) (a : α) (rest : List α)
    (progress : Progress) :
    perform ((a :: rest).forM action) progress =
      match perform (action a) progress with
      | (.error fault, reached) => (.error fault, reached)
      | (.ok _, reached) => perform (rest.forM action) reached := by
  have hcons : (a :: rest).forM action = (action a >>= fun _ => rest.forM action) := rfl
  rw [hcons, perform_bind (action a) (fun _ => rest.forM action) progress]
  rcases perform (action a) progress with ⟨_ | _, reached⟩ <;> rfl

theorem perform_change (change : Files.Change) (progress : Progress) :
    perform (Writing.change change) progress =
      match change.apply progress.tree with
      | .error fault => (.error (.file fault), progress)
      | .ok tree => (.ok (), { progress with tree, changes := progress.changes ++ [change] }) := by
  unfold Writing.change
  have hget : perform (get : Writing Progress) progress = (.ok progress, progress) := rfl
  rw [perform_bind, hget]
  simp only
  cases change.apply progress.tree <;> rfl

theorem perform_locate (found : Except Files.PathFault Files.Path) (progress : Progress) :
    perform (Writing.locate found) progress =
      match found with
      | .error fault => (.error (.path fault), progress)
      | .ok path => (.ok path, progress) := by
  cases found <;> rfl

/-- How an action ends that fails with a fault, if there is one. -/
def ended : Option Files.FileFault → Except WriteFault Unit
  | none => .ok ()
  | some fault => .error (.file fault)

theorem ended_eq_ok_iff {fault? : Option Files.FileFault} :
    ended fault? = .ok () ↔ fault? = none := by
  cases fault? <;> simp [ended]

theorem perform_makeFolders (path : Files.Path) (progress : Progress) :
    perform (makeFolders path) progress =
      (ended (progress.tree.makingFault? path), { progress with
        tree := progress.tree.makeFolders path
        changes := progress.changes ++ [.makeFolders path] }) := by
  unfold makeFolders
  have hget : perform (get : Writing Progress) progress = (.ok progress, progress) := rfl
  rw [perform_bind, hget]
  simp only [perform_bind, perform_change, Files.Change.apply]
  cases progress.tree.makingFault? path <;> rfl

end Writing

/-- A root was removed, which left a tree, and the folders on the way to it were made. -/
def Progress.remade (progress : Progress) (removed : Files.Tree) (root : Files.Path) : Progress :=
  { progress with
    tree := removed.makeFolders root
    changes := progress.changes ++ [.remove root, .makeFolders root] }

open Writing in
theorem perform_clear (folder : Files.Path) (output : OutputSettings) (progress : Progress) :
    perform (clear folder output) progress =
      match Files.validate folder output.folder with
      | .error fault => (.error (.path fault), progress)
      | .ok path =>
          match progress.tree.remove path with
          | .error fault => (.error (.file fault), progress)
          | .ok tree => (ended (tree.makingFault? path), progress.remade tree path) := by
  unfold clear
  rw [perform_bind, perform_locate]
  cases Files.validate folder output.folder with
  | error fault => rfl
  | ok path =>
      simp only [perform_bind, perform_change, Files.Change.apply]
      cases progress.tree.remove path with
      | error fault => rfl
      | ok tree => simp [perform_makeFolders, Progress.remade]

/-- Clearing removes the output folder and makes it again as far as it can be made, or does
nothing. -/
theorem clear_cases (folder : Files.Path) (output : OutputSettings) (progress : Progress) :
    (∃ fault, Writing.perform (clear folder output) progress = (.error fault, progress)) ∨
      ∃ tree, progress.tree.remove (folder.resolve output.folder) = .ok tree ∧
        Writing.perform (clear folder output) progress =
          (Writing.ended (tree.makingFault? (folder.resolve output.folder)),
            progress.remade tree (folder.resolve output.folder)) := by
  rw [perform_clear]
  cases hpath : Files.validate folder output.folder with
  | error fault => exact .inl ⟨_, rfl⟩
  | ok path =>
      have hroot := Files.validate_ok hpath
      subst hroot
      cases hremove : progress.tree.remove (folder.resolve output.folder) with
      | error fault => exact .inl ⟨.file fault, by simp only [hremove]⟩
      | ok tree => exact .inr ⟨tree, rfl, by simp only [hremove]⟩

open Writing in
theorem perform_writeUnit (folder : Files.Path) (output : OutputSettings)
    (stub : Generation.StubUnit) (progress : Progress) :
    perform (writeUnit folder output stub) progress =
      match Files.resolveWithin folder output.folder (stub.space ++ output.extension) with
      | .error fault => (.error (.path fault), progress)
      | .ok path =>
          match progress.tree.write path stub.content with
          | .error fault => (.error (.file fault), progress)
          | .ok tree =>
              (.ok (), {
                tree
                changes := progress.changes ++ [.write path stub.content]
                events := progress.events ++ [.unitWritten stub.space path.text] }) := by
  unfold writeUnit
  rw [perform_bind, perform_locate]
  cases Files.resolveWithin folder output.folder (stub.space ++ output.extension) with
  | error fault => rfl
  | ok path =>
      simp only [perform_bind, perform_change, Files.Change.apply]
      cases progress.tree.write path stub.content <;> rfl

/-- A unit is written to a path inside the output folder, or nothing is done. -/
theorem writeUnit_cases (folder : Files.Path) (output : OutputSettings)
    (stub : Generation.StubUnit) (progress : Progress) :
    (∃ fault, Writing.perform (writeUnit folder output stub) progress =
        (.error fault, progress)) ∨
      ∃ path tree,
        Files.resolveWithin folder output.folder (stub.space ++ output.extension) = .ok path ∧
        progress.tree.write path stub.content = .ok tree ∧
        Writing.perform (writeUnit folder output stub) progress =
          (.ok (), {
            tree
            changes := progress.changes ++ [.write path stub.content]
            events := progress.events ++ [.unitWritten stub.space path.text] }) := by
  rw [perform_writeUnit]
  cases hpath : Files.resolveWithin folder output.folder (stub.space ++ output.extension) with
  | error fault => exact .inl ⟨_, rfl⟩
  | ok path =>
      cases hwrite : progress.tree.write path stub.content with
      | error fault => exact .inl ⟨.file fault, by simp only [hwrite]⟩
      | ok tree => exact .inr ⟨path, tree, rfl, hwrite, by simp only [hwrite]⟩

/-! ## The ends of a run -/

theorem changes_writeUnits (place : Files.Place) (output : OutputSettings)
    (units : List Generation.StubUnit) (events : List Event) :
    (writeUnits place output units events).changes =
      (Writing.perform (writeAll place.folder output units)
        { tree := place.tree, events }).2.changes := by
  unfold writeUnits Writing.perform
  split
  next fault progress hperform => rw [hperform]
  next progress hperform => rw [hperform]

/-- If writing fails, it is the writing that is reported. -/
theorem error_writeUnits {place : Files.Place} {output : OutputSettings}
    {units : List Generation.StubUnit} {events : List Event} {failure : Failure}
    (hfailed : (writeUnits place output units events).result = .error failure) :
    failure.stage? = some .writing := by
  unfold writeUnits at hfailed
  split at hfailed
  next fault progress _ =>
    rw [← Except.error.inj hfailed]
    rfl
  next => contradiction

theorem ofGeneration_stage (failure : Generation.Failure) :
    (Failure.ofGeneration failure).stage? ≠ some .writing := by
  cases failure <;> simp [Failure.ofGeneration, Failure.stage?]

/-- A run that gets to writing is not dry and has passed all checks. -/
theorem run_cases (place : Files.Place) (options : Generation.Options) (files : List String)
    (dry : Bool) :
    (∃ failure events, run place options files dry = ⟨.error failure, events, []⟩ ∧
        failure.stage? ≠ some .writing) ∨
      (∃ units events, run place options files dry = ⟨.ok units, events, []⟩ ∧ dry = true) ∨
      ∃ modules units, prepare place options files = .ok modules ∧
        (Generation.generate modules options).result = .ok units ∧ dry = false ∧
        run place options files dry =
          writeUnits place options.settings.output units
            (Generation.generate modules options).events := by
  unfold run
  cases hprepared : prepare place options files with
  | error failure => exact .inl ⟨failure, [], rfl, prepare_error hprepared⟩
  | ok modules =>
      simp only
      cases hgenerated : (Generation.generate modules options).result with
      | error failure => exact .inl ⟨_, _, rfl, ofGeneration_stage failure⟩
      | ok units =>
          cases dry with
          | true => exact .inr (.inl ⟨units, _, rfl, rfl⟩)
          | false => exact .inr (.inr ⟨modules, units, rfl, hgenerated, rfl, rfl⟩)

theorem changes_dry (place : Files.Place) (options : Generation.Options) (files : List String) :
    (run place options files true).changes = [] := by
  rcases run_cases place options files true with
    ⟨failure, events, hrun, -⟩ | ⟨units, events, hrun, -⟩ | ⟨_, _, -, -, hdry, -⟩
  · rw [hrun]
  · rw [hrun]
  · contradiction

/-- Only the writing itself can fail after a change. -/
theorem changes_of_error {dry : Bool} {failure : Failure}
    (hfailed : (run place options files dry).result = .error failure)
    (hstage : failure.stage? ≠ some .writing) : (run place options files dry).changes = [] := by
  rcases run_cases place options files dry with
    ⟨other, events, hrun, -⟩ | ⟨units, events, hrun, -⟩ | ⟨modules, units, -, -, -, hrun⟩
  · rw [hrun]
  · rw [hrun]
  · rw [hrun] at hfailed
    exact absurd (error_writeUnits hfailed) hstage

end Emission
end ApiStubs
