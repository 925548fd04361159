import ApiStubs.Proofs.Emission.Footprint
import ApiStubs.Proofs.Generation
import ApiStubs.Proofs.Stub.Rules

/-!
# Failures that belong to no stage

Settings, modules, types and the writing each fail with their stage.  What is left are
the paths that the check of the output folder reads: the text of the folder itself, and
those of the targets up to the first one that is found in the folder.
-/

namespace ApiStubs
namespace Emission

variable {folder : Files.Path} {output : String} {targets : List String}

/-- Some target cannot be read, and no target before it is found in the folder. -/
def ReachesUnreadable (folder : Files.Path) (output : String) (targets : List String) : Prop :=
  ∃ before target after, targets = before ++ target :: after ∧ Files.Unreadable target ∧
    ∀ earlier ∈ before, ¬ folder.resolve output <+: folder.resolve earlier

theorem reachesUnreadable_cons {target : String} :
    ReachesUnreadable folder output (target :: targets) ↔
      Files.Unreadable target ∨ (¬ folder.resolve output <+: folder.resolve target ∧
        ReachesUnreadable folder output targets) := by
  constructor
  · rintro ⟨before, bad, after, hsplit, hbad, hbefore⟩
    cases before with
    | nil =>
        rw [List.nil_append, List.cons.injEq] at hsplit
        rw [hsplit.1]
        exact .inl hbad
    | cons first before =>
        rw [List.cons_append, List.cons.injEq] at hsplit
        obtain ⟨rfl, hsplit⟩ := hsplit
        exact .inr ⟨hbefore target List.mem_cons_self, before, bad, after, hsplit, hbad,
          fun earlier hmem => hbefore earlier (List.mem_cons_of_mem target hmem)⟩
  · rintro (hbad | ⟨htarget, before, bad, after, rfl, hbad, hbefore⟩)
    · exact ⟨[], target, targets, rfl, hbad, by simp⟩
    · exact ⟨target :: before, bad, after, rfl, hbad,
        List.forall_mem_cons.mpr ⟨htarget, hbefore⟩⟩

/-- The check of a folder that can be read ends at a target that cannot. -/
theorem checkFolder_invalidPath_iff (hfolder : folder.Normal)
    (houtput : ¬ Files.Unreadable output) :
    (∃ fault, checkFolder folder output targets = .error (.invalidPath fault)) ↔
      ReachesUnreadable folder output targets := by
  induction targets with
  | nil => simp [checkFolder, ReachesUnreadable]
  | cons target targets ih =>
      rw [reachesUnreadable_cons, checkFolder]
      rcases Files.contains_cases hfolder output target with
        ⟨hunreadable, fault, hfault⟩ | ⟨-, hread, hfound⟩
      · have hbad := hunreadable.resolve_left houtput
        rw [hfault]
        exact ⟨fun _ => .inl hbad, fun _ => ⟨fault, rfl⟩⟩
      · rw [hfound]
        by_cases hbelow : folder.resolve output <+: folder.resolve target
        · simp [hbelow, hread]
        · simp [hbelow, hread, ih]

theorem checkFolder_of_unreadable (hfolder : folder.Normal)
    (houtput : Files.Unreadable output) {target : String} :
    ∃ fault, checkFolder folder output (target :: targets) = .error (.invalidPath fault) := by
  rcases Files.contains_cases hfolder output target with ⟨-, fault, hfault⟩ | ⟨hread, -⟩
  · exact ⟨fault, by rw [checkFolder, hfault]⟩
  · contradiction

/-! ## The stages of a run -/

variable {place : Files.Place} {options : Generation.Options} {files : List String}

theorem ne_invalidPattern_of_patternsCompile (modules : List ApiModule)
    (hcompile : Stub.PatternsCompile options.settings) (invalid : Stub.InvalidPattern) :
    (Generation.generate modules options).result ≠ .error (.invalidPattern invalid) := by
  obtain ⟨rules, hrules⟩ := Stub.ofSettings_of_patternsCompile hcompile
  rw [Generation.generate_eq_finish modules (hrules options.isStrict)]
  cases hrun : Rendering.outcome
      (Generation.renderModules (rules.withStrict options.isStrict) (Generation.order modules))
      ⟨Generation.inferred modules, Generation.openingEvents modules options⟩ with
  | mk result reached =>
      cases result with
      | error unknown => simp [Generation.finish_of_error hrun]
      | ok rendered => simp [Generation.finish_of_ok hrun]

theorem prepare_stage_none_iff :
    (∃ failure, prepare place options files = .error failure ∧ failure.stage? = none) ↔
      options.settings.check = [] ∧ ∃ fault,
        checkFolder place.folder options.settings.output.folder
          (place.folder.text :: files) = .error (.invalidPath fault) := by
  rw [prepare_eq]
  by_cases hcheck : options.settings.check = []
  · rw [if_neg (by simp [hcheck])]
    cases hchecked : checkFolder place.folder options.settings.output.folder
        (place.folder.text :: files) with
    | error failure =>
        rcases checkFolder_error hchecked with ⟨target, rfl⟩ | ⟨fault, rfl⟩
        · simp [Failure.stage?]
        · simp [hcheck, Failure.stage?]
    | ok =>
        cases ApiModule.load place files with
        | error fault => simp [Except.mapError, Failure.stage?]
        | ok modules => simp [Except.mapError]
  · rw [if_pos (by simpa using hcheck)]
    simp [hcheck, Failure.stage?]

/-- With patterns that compile, all that comes behind the checks fails with a stage. -/
theorem stage_none_iff_prepare (hcompile : Stub.PatternsCompile options.settings) {dry : Bool} :
    (∃ failure, (run place options files dry).result = .error failure ∧
        failure.stage? = none) ↔
      ∃ failure, prepare place options files = .error failure ∧ failure.stage? = none := by
  unfold run
  cases hprepared : prepare place options files with
  | error failure => simp
  | ok modules =>
      simp only
      cases hgenerated : (Generation.generate modules options).result with
      | error failure =>
          cases failure with
          | invalidPattern invalid =>
              exact absurd hgenerated (ne_invalidPattern_of_patternsCompile modules hcompile _)
          | unknownType unknown => simp [Failure.ofGeneration, Failure.stage?]
      | ok units =>
          cases dry with
          | true => simp
          | false =>
              simp only [Bool.false_eq_true, if_false]
              constructor
              · rintro ⟨failure, hfailed, hstage⟩
                rw [error_writeUnits hfailed] at hstage
                contradiction
              · rintro ⟨failure, hfailed, -⟩
                contradiction

theorem folder_ne_of_check {settings : Settings} (hcheck : settings.check = []) :
    settings.output.folder ≠ "" := by
  intro hempty
  simp [Settings.check, hempty, Text.allBlank] at hcheck

/-- Settings that are checked and have patterns that compile leave two ways to fail without
a stage: the output folder holds a null character, or a target does or is empty and no
target before it, the folder of the run among them, lies in the output folder. -/
theorem stage_none_iff (hplace : place.folder.Normal)
    (hcompile : Stub.PatternsCompile options.settings) {dry : Bool} :
    (∃ failure, (run place options files dry).result = .error failure ∧
        failure.stage? = none) ↔
      options.settings.check = [] ∧
        (Files.holdsNull options.settings.output.folder = true ∨
          ReachesUnreadable place.folder options.settings.output.folder
            (place.folder.text :: files)) := by
  rw [stage_none_iff_prepare hcompile, prepare_stage_none_iff]
  constructor
  · rintro ⟨hcheck, hinvalid⟩
    refine ⟨hcheck, ?_⟩
    by_cases hnull : Files.holdsNull options.settings.output.folder = true
    · exact .inl hnull
    · have hread : ¬ Files.Unreadable options.settings.output.folder :=
        not_or.mpr ⟨folder_ne_of_check hcheck, hnull⟩
      exact .inr ((checkFolder_invalidPath_iff hplace hread).mp hinvalid)
  · rintro ⟨hcheck, hreaches⟩
    refine ⟨hcheck, ?_⟩
    by_cases hread : Files.Unreadable options.settings.output.folder
    · exact checkFolder_of_unreadable hplace hread
    · have hnull := (not_or.mp hread).2
      exact (checkFolder_invalidPath_iff hplace hread).mpr (hreaches.resolve_left hnull)

/-- An output folder with a null character passes the check of the settings and is then
refused without a stage; so is an empty file among the modules. -/
theorem stage_none_of_null_and_empty :
    let place : Files.Place := ⟨["work"], ⟨[(["work"], .folder)]⟩⟩
    let output : OutputSettings := { folder := "api\x00" }
    let null := run place { settings := { output }, version := "1" } ["api.json"] false
    let empty := run place { settings := {}, version := "1" } [""] false
    null.result = .error (.invalidPath (.nullCharacter "api\x00")) ∧
      empty.result = .error (.invalidPath (.empty "")) ∧
      (Failure.invalidPath (.nullCharacter "api\x00")).stage? = none ∧
      (Failure.invalidPath (.empty "")).stage? = none := by
  decide +kernel

end Emission
end ApiStubs
