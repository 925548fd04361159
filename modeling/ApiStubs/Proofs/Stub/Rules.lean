import ApiStubs.Stub.Rules
import ApiStubs.Proofs.Except

/-!
# Rules of settings whose patterns compile

Compiling patterns is the only thing that can fail on the way from settings to
rules, and being strict changes nothing else about the rules.
-/

namespace ApiStubs
namespace TypeRules

/-- The same rules, strict or not. -/
def withStrict (rules : TypeRules) (strict : Bool) : TypeRules :=
  { rules with strict }

end TypeRules

namespace Stub

def Rules.withStrict (rules : Rules) (strict : Bool) : Rules :=
  { rules with types := rules.types.withStrict strict }

/-- Every pattern of the settings can be compiled. -/
def PatternsCompile (settings : Settings) : Prop :=
  (∀ entry ∈ settings.replacements.types.entries, (compileWhole entry.1).isOk = true) ∧
    ∀ pattern ∈ settings.ignoredFunctions, (compileWhole pattern).isOk = true

instance (settings : Settings) : Decidable (PatternsCompile settings) :=
  inferInstanceAs (Decidable (_ ∧ _))

theorem ofSettings_of_patternsCompile {settings : Settings}
    (hcompile : PatternsCompile settings) :
    ∃ rules : Rules, ∀ strict, Rules.ofSettings settings strict =
      .ok (rules.withStrict strict) := by
  have hreplacement : ∀ entry ∈ settings.replacements.types.entries,
      ∃ replacement, compileReplacement entry = .ok replacement := by
    intro entry hentry
    obtain ⟨compiled, hcompiled⟩ := exists_eq_ok_of_isOk (hcompile.1 entry hentry)
    refine ⟨⟨compiled, entry.2⟩, ?_⟩
    rw [compileReplacement, hcompiled]
    rfl
  obtain ⟨replacements, hreplacements⟩ := exists_mapM_eq_ok hreplacement
  obtain ⟨ignored, hignored⟩ := exists_mapM_eq_ok
    (fun pattern hpattern => exists_eq_ok_of_isOk (hcompile.2 pattern hpattern))
  let types : TypeRules := {
    strict := false
    sentinel := settings.types.unknown
    known := settings.types.known ++ settings.types.classes ++ settings.types.aliases
    replacements
    perPosition := settings.replacements.localTypes }
  refine ⟨{
    types
    names := settings.replacements.names
    localNames := settings.replacements.localNames
    generics := settings.types.generics
    ignored }, ?_⟩
  intro strict
  rw [Rules.ofSettings, typeRules, hreplacements, hignored]
  rfl

theorem Rules.types_of_ofSettings {settings : Settings} {strict : Bool} {rules : Rules}
    (hrules : Rules.ofSettings settings strict = .ok rules) :
    rules.types.strict = strict ∧ rules.types.sentinel = settings.types.unknown ∧
      rules.types.known =
        settings.types.known ++ settings.types.classes ++ settings.types.aliases := by
  unfold Rules.ofSettings typeRules at hrules
  cases hreplacements : settings.replacements.types.entries.mapM compileReplacement with
  | error invalid =>
      rw [hreplacements] at hrules
      contradiction
  | ok replacements =>
      cases hignored : settings.ignoredFunctions.mapM compileWhole with
      | error invalid =>
          rw [hreplacements, hignored] at hrules
          contradiction
      | ok ignored =>
          rw [hreplacements, hignored] at hrules
          cases hrules
          exact ⟨rfl, rfl, rfl⟩

theorem Rules.strict_of_ofSettings {settings : Settings} {strict : Bool} {rules : Rules}
    (hrules : Rules.ofSettings settings strict = .ok rules) :
    rules.types.strict = strict :=
  (Rules.types_of_ofSettings hrules).1

end Stub
end ApiStubs
