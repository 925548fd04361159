import ApiStubs.Proofs.Pattern.Whole
import ApiStubs.Proofs.Stub.Rules
import ApiStubs.Settings.Check

/-!
# Rules of settings without defects

A check compiles each pattern alone, and the rules compile it as a whole.
-/

namespace ApiStubs

namespace Stub

theorem isOk_compileWhole {pattern : String} {compiled : Pattern.Compiled}
    (hcompile : Pattern.compile pattern = .ok compiled) :
    (compileWhole pattern).isOk = true := by
  rw [compileWhole, Pattern.compile_wholeSource hcompile]
  rfl

end Stub

namespace Settings

variable {settings : Settings}

theorem exists_ok_of_checkPattern {field pattern : String}
    (hcheck : checkPattern field pattern = []) :
    ∃ compiled, Pattern.compile pattern = .ok compiled := by
  unfold checkPattern at hcheck
  split at hcheck
  next compiled hcompile => exact ⟨compiled, hcompile⟩
  next => contradiction

theorem patternsCompile_of_check (hcheck : check settings = []) :
    Stub.PatternsCompile settings := by
  obtain ⟨hothers, hignored⟩ := List.append_eq_nil_iff.mp hcheck
  obtain ⟨-, hreplaced⟩ := List.append_eq_nil_iff.mp hothers
  constructor
  · intro entry hentry
    have hname : entry.1 ∈ settings.replacements.types.names := List.mem_map_of_mem hentry
    obtain ⟨compiled, hcompile⟩ :=
      exists_ok_of_checkPattern (List.flatMap_eq_nil_iff.mp hreplaced entry.1 hname)
    exact Stub.isOk_compileWhole hcompile
  · intro pattern hpattern
    obtain ⟨index, hindex⟩ := List.getElem?_of_mem hpattern
    have hindexed : (pattern, index) ∈ settings.ignoredFunctions.zipIdx :=
      List.mem_zipIdx_iff_getElem?.mpr hindex
    obtain ⟨compiled, hcompile⟩ :=
      exists_ok_of_checkPattern (List.flatMap_eq_nil_iff.mp hignored _ hindexed)
    exact Stub.isOk_compileWhole hcompile

/--
Settings without defects have rules, strict or not.  It holds of every list of units, also
of one that no text consists of, that it is compiled as a whole if it is compiled alone.
-/
theorem rules_of_check :
    (∀ settings strict, check settings = [] →
      ∃ rules, Stub.Rules.ofSettings settings strict = .ok rules) ∧
    ∀ us compiled, Pattern.compileUnits us = .ok compiled →
      Pattern.compileUnits (Pattern.wholeUnits us) = .ok compiled.whole := by
  refine ⟨fun settings strict hcheck => ?_, fun us compiled hcompile => ?_⟩
  · obtain ⟨rules, hrules⟩ :=
      Stub.ofSettings_of_patternsCompile (patternsCompile_of_check hcheck)
    exact ⟨rules.withStrict strict, hrules strict⟩
  · exact Pattern.compileUnits_wholeUnits hcompile

theorem rules_of_check_lenient_escapes :
    let settings : Settings := {
      replacements.types :=
        Table.ofList [("(?:\\1|(?<kind>[^\\]-a]))\\c", "T"), ("x\x7b1,|\\x4", "U")]
      ignoredFunctions := ["_.*|(?=\\u00)*"] }
    let halves := [0xD83D, Pattern.unitOf '\\', Pattern.unitOf '2']
    check settings = [] ∧
      (∃ rules, Stub.Rules.ofSettings settings true = .ok rules) ∧
      Pattern.compileUnits (Pattern.wholeUnits halves) =
        .ok ⟨.seq .textStart (.seq (.seq (.unit 0xD83D) (.seq (.unit 2) .empty))
          (.seq .textEnd .empty)), 0, []⟩ := by
  intro settings halves
  have hcheck : check settings = [] := by decide +kernel
  have hcompile : Pattern.compileUnits halves =
      .ok ⟨.seq (.unit 0xD83D) (.seq (.unit 2) .empty), 0, []⟩ := by rfl
  exact ⟨hcheck, rules_of_check.1 settings true hcheck, rules_of_check.2 halves _ hcompile⟩

end Settings
end ApiStubs
