import ApiStubs.Proofs.Rendering.Lines
import ApiStubs.Proofs.Stub.Generics
import ApiStubs.Proofs.Table

/-!
# Generics of a rendered function

The lines of a function are rendered before its generic is looked at, so a run without the
generic renders the same lines and reaches the same session.  The two declarations differ
by the replacements in the lines, which number at most one if the generic is not declared.
-/

namespace ApiStubs

/-- The same settings without the generic of a function. -/
def Settings.withoutGeneric (settings : Settings) (name : String) : Settings :=
  { settings with types.generics := settings.types.generics.without name }

namespace Stub

open Rendering
open Text (holds startsWith)

def Rules.withoutGeneric (rules : Rules) (name : String) : Rules :=
  { rules with generics := rules.generics.without name }

theorem ofSettings_withoutGeneric {settings : Settings} {strict : Bool} {rules : Rules}
    (hrules : Rules.ofSettings settings strict = .ok rules) (name : String) :
    rules.generics = settings.types.generics ∧
      Rules.ofSettings (settings.withoutGeneric name) strict = .ok (rules.withoutGeneric name) := by
  have htypes : typeRules (settings.withoutGeneric name) strict = typeRules settings strict := rfl
  have hpatterns : (settings.withoutGeneric name).ignoredFunctions = settings.ignoredFunctions := rfl
  unfold Rules.ofSettings at hrules ⊢
  rw [htypes, hpatterns]
  cases hcompiled : typeRules settings strict with
  | error invalid =>
      rw [hcompiled] at hrules
      contradiction
  | ok types =>
      cases hignored : settings.ignoredFunctions.mapM compileWhole with
      | error invalid =>
          rw [hcompiled, hignored] at hrules
          contradiction
      | ok ignored =>
          rw [hcompiled, hignored] at hrules
          cases hrules
          exact ⟨rfl, rfl⟩

/-- The lines of the parameters and results of a function, with its generic in place. -/
def Rules.annotations (rules : Rules) (name : String) (parameters returns : List Parameter) :
    Rendering (List String) := do
  let parameterLines ← parameters.mapM (rules.renderParameter name)
  let resultLines ← returns.mapM (rules.renderResult name)
  return parameterLines ++ resultLines

/-- A declaration with the lines as they are written. -/
def writtenText (description declared signature name : String) (lines : List String) : String :=
  comment commentMark description ++ "\n" ++ declared ++ String.join (lines.map (· ++ "\n")) ++
    "function " ++ name ++ "(" ++ signature ++ ") end"

theorem functionText_eq (description signature name : String) (generic? : Option String)
    (lines : List String) :
    functionText description signature name generic? lines =
      writtenText description (genericLine generic? (replacements generic? lines)) signature name
        (replacedLines generic? lines) := by
  unfold functionText writtenText replacements replacedLines
  simp only [List.map_map, Function.comp_def]

theorem functionText_none (description signature name : String) (lines : List String) :
    functionText description signature name none lines =
      writtenText description "" signature name lines := by
  have hsame : replacedLines none lines = lines := by
    simp [replacedLines, applyGeneric]
  rw [functionText_eq, hsame]
  rfl

section

variable {rules : Rules} {name generic : String} {description : Option String}
  {parameters returns : List Parameter} {session reached : Session} {text : String}

theorem renderFunction_eq (hkept : rules.ignores name = false) :
    rules.renderFunction name description parameters returns =
      (fun lines => some (functionText (description.getD "") (rules.signature name parameters) name
        (rules.generics.get? name) lines)) <$> rules.annotations name parameters returns := by
  simp only [Rules.renderFunction, Rules.annotations, hkept, map_eq_pure_bind, bind_assoc,
    pure_bind]
  rfl

/-- A rendered function is not ignored. -/
theorem not_ignored_of_renderFunction
    (hrun : outcome (rules.renderFunction name description parameters returns) session =
      (.ok (some text), reached)) : rules.ignores name = false := by
  rw [← Bool.not_eq_true]
  intro hignored
  rw [Rules.renderFunction, if_pos hignored, outcome_pure] at hrun
  simp at hrun

/-- A rendered function has been rendered to its lines first. -/
theorem exists_annotations_of_renderFunction
    (hrun : outcome (rules.renderFunction name description parameters returns) session =
      (.ok (some text), reached)) :
    ∃ lines, outcome (rules.annotations name parameters returns) session = (.ok lines, reached) ∧
      text = functionText (description.getD "") (rules.signature name parameters) name
        (rules.generics.get? name) lines := by
  rw [renderFunction_eq (not_ignored_of_renderFunction hrun), outcome_map] at hrun
  cases hlines : outcome (rules.annotations name parameters returns) session with
  | mk result last =>
      rw [hlines] at hrun
      cases result with
      | error unknown => simp [Except.map] at hrun
      | ok lines =>
          simp only [Except.map, Prod.mk.injEq, Except.ok.injEq, Option.some.injEq] at hrun
          obtain ⟨rfl, rfl⟩ := hrun
          exact ⟨lines, rfl, rfl⟩

/-- Two replacements declare the generic in a line of its own. -/
theorem holds_genericLine (description signature : String) {lines : List String}
    (hmany : 2 ≤ replacements (some generic) lines) :
    holds (functionText description signature name (some generic) lines)
      ("\n---@generic T: " ++ generic ++ "\n") = true := by
  have hmark : "\n---@generic T: ".toList = "\n".toList ++ "---@generic T: ".toList := by decide
  have hdeclared : genericLine (some generic) (replacements (some generic) lines) =
      "---@generic T: " ++ generic ++ "\n" := if_pos hmany
  rw [functionText_eq, hdeclared, Text.holds_iff]
  unfold writtenText
  generalize String.join ((replacedLines (some generic) lines).map (· ++ "\n")) = later
  refine ⟨(comment commentMark description).toList,
    (later ++ "function " ++ name ++ "(" ++ signature ++ ") end").toList, ?_⟩
  simp only [String.toList_append, hmark, List.append_assoc]

/-- Where the generic of a function is not declared, the same lines are rendered without it
from the same session, and at most one of them is written with the generic, in one place. -/
theorem annotations_of_undeclared {settings : Settings} {strict : Bool}
    (hrules : Rules.ofSettings settings strict = .ok rules)
    (hgeneric : settings.types.generics.get? name = some generic)
    (hrun : outcome (rules.renderFunction name description parameters returns) session =
      (.ok (some text), reached))
    (hundeclared : holds text ("\n---@generic T: " ++ generic ++ "\n") = false) :
    ∃ plain, Rules.ofSettings (settings.withoutGeneric name) strict = .ok plain ∧
      ∃ lines changed,
        outcome (plain.annotations name parameters returns) session = (.ok lines, reached) ∧
        outcome (plain.renderFunction name description parameters returns) session =
          (.ok (some (writtenText (description.getD "") "" (plain.signature name parameters) name
            lines)), reached) ∧
        text = writtenText (description.getD "") "" (plain.signature name parameters) name
          changed ∧
        RewrittenOnce (genericPart generic) " T " lines changed := by
  obtain ⟨hgenerics, hplain⟩ := ofSettings_withoutGeneric hrules name
  obtain ⟨lines, hlines, htext⟩ := exists_annotations_of_renderFunction hrun
  rw [hgenerics, hgeneric] at htext
  have hfew : replacements (some generic) lines < 2 := by
    apply Nat.lt_of_not_le
    intro hmany
    rw [htext, holds_genericLine _ _ hmany] at hundeclared
    contradiction
  have hnone : (rules.withoutGeneric name).generics.get? name = none :=
    Table.get?_without rules.generics name
  have hignores : rules.ignores name = false := not_ignored_of_renderFunction hrun
  have hkept : (rules.withoutGeneric name).ignores name = false := hignores
  have hsame : outcome ((rules.withoutGeneric name).annotations name parameters returns) session =
      (.ok lines, reached) := hlines
  refine ⟨_, hplain, lines, replacedLines (some generic) lines, hsame, ?_, ?_,
    rewrittenOnce_replacedLines hfew⟩
  · rw [renderFunction_eq hkept, outcome_map, hsame, hnone]
    simp only [functionText_none]
    rfl
  · have hdeclared : genericLine (some generic) (replacements (some generic) lines) = "" :=
      if_neg (Nat.not_le.mpr hfew)
    rw [htext, functionText_eq, hdeclared]
    rfl

/-- One parameter of the type, and another one behind it. -/
theorem annotations_of_undeclared_clone :
    let settings : Settings := { types.generics := Table.ofList [("sys.clone", "table")] }
    let parameters : List Parameter := [⟨"value", ["table"], none, none⟩,
      ⟨"depth", ["integer"], none, none⟩]
    let text := "---\n---@param value T \n---@param depth integer \n" ++
      "function sys.clone(value, depth) end"
    ∃ rules plain changed, Rules.ofSettings settings false = .ok rules ∧
      outcome (rules.renderFunction "sys.clone" none parameters []) {} = (.ok (some text), {}) ∧
      Rules.ofSettings (settings.withoutGeneric "sys.clone") false = .ok plain ∧
      text = writtenText "" "" "value, depth" "sys.clone" changed ∧
      RewrittenOnce (genericPart "table") " T "
        ["---@param value table ", "---@param depth integer "] changed := by
  intro settings parameters text
  obtain ⟨rules, hrules, hrun⟩ : ∃ rules, Rules.ofSettings settings false = .ok rules ∧
      outcome (rules.renderFunction "sys.clone" none parameters []) {} = (.ok (some text), {}) :=
    ⟨_, rfl, by decide +kernel⟩
  have hgeneric : settings.types.generics.get? "sys.clone" = some "table" := by decide
  obtain ⟨plain, hplain, lines, changed, hlines, -, htext, hrewritten⟩ :=
    annotations_of_undeclared hrules hgeneric hrun (by decide +kernel)
  obtain ⟨other, hother, hannotations, hsignature⟩ : ∃ other,
      Rules.ofSettings (settings.withoutGeneric "sys.clone") false = .ok other ∧
      (outcome (other.annotations "sys.clone" parameters []) {}).1 =
        .ok ["---@param value table ", "---@param depth integer "] ∧
      other.signature "sys.clone" parameters = "value, depth" :=
    ⟨_, rfl, by decide +kernel, by decide +kernel⟩
  obtain rfl : plain = other := Except.ok.inj (hplain.symm.trans hother)
  rw [hlines, Except.ok.injEq] at hannotations
  rw [hannotations] at hrewritten
  rw [hsignature] at htext
  exact ⟨rules, plain, changed, hrules, hrun, hplain, htext, hrewritten⟩

/-- A single parameter of the type is written with the generic, which is not declared. -/
theorem undeclared_generic_written :
    let settings : Settings := { types.generics := Table.ofList [("sys.clone", "table")] }
    let parameters : List Parameter := [⟨"value", ["table"], none, none⟩]
    ∃ rules plain text,
      Rules.ofSettings settings false = .ok rules ∧
      Rules.ofSettings (settings.withoutGeneric "sys.clone") false = .ok plain ∧
      text = "---\n---@param value T \nfunction sys.clone(value) end" ∧
      holds text "---@generic T: table" = false ∧
      outcome (rules.renderFunction "sys.clone" none parameters []) {} = (.ok (some text), {}) ∧
      outcome (plain.renderFunction "sys.clone" none parameters []) {} =
        (.ok (some "---\n---@param value table \nfunction sys.clone(value) end"), {}) := by
  intro settings parameters
  refine ⟨_, _, _, rfl, rfl, rfl, ?_⟩
  decide +kernel

/-! ## Names of the parameters -/

theorem ensures_parameterLine (rules : Rules) (element : String) (parameter : Parameter) :
    Ensures (fun _ => True) (rules.renderParameter element parameter) (fun line =>
      ∃ types, line = parameterLine (rules.parameterName parameter .parameter element) parameter
        types) := by
  apply Ensures.bind (ensures_any _)
  intro types _
  exact ensures_pure ⟨types, rfl⟩

/-- The lines of the parameters stand first, one for each. -/
theorem ensures_annotations (rules : Rules) (name : String) (parameters returns : List Parameter) :
    Ensures (fun _ => True) (rules.annotations name parameters returns) (fun lines =>
      ∃ parameterLines resultLines, lines = parameterLines ++ resultLines ∧
        parameters.Forall₂ (fun parameter line => ∃ types, line =
          parameterLine (rules.parameterName parameter .parameter name) parameter types)
          parameterLines) := by
  apply (ensures_forall₂_mapM (fun parameter _ =>
    ensures_parameterLine rules name parameter)).bind
  intro parameterLines hparameterLines
  apply Ensures.bind (ensures_any _)
  intro resultLines _
  exact ensures_pure ⟨parameterLines, resultLines, rfl, hparameterLines⟩

/-- Each parameter has a line with its name in the text of a function, unless the line begins
with the generic between blanks.  The generic is written in the place of the name then. -/
theorem parameterLines_of_renderFunction
    (hrun : outcome (rules.renderFunction name description parameters returns) session =
      (.ok (some text), reached))
    (hnames : ∀ parameter ∈ parameters,
      Readable (rules.parameterName parameter .parameter name)) :
    ∃ parameterLines resultLines,
      text = functionText (description.getD "") (rules.signature name parameters) name
        (rules.generics.get? name) (parameterLines ++ resultLines) ∧
      parameters.Forall₂ (fun parameter line =>
        let shown := rules.parameterName parameter .parameter name
        (∃ types, line = parameterLine shown parameter types) ∧
          (Annotates shown (applyGeneric (rules.generics.get? name) line).1 ↔
            shown = "T" ∨ ∀ generic ∈ rules.generics.get? name,
              startsWith line ("---@param " ++ generic ++ " ") = false)) parameterLines := by
  obtain ⟨lines, hlines, htext⟩ := exists_annotations_of_renderFunction hrun
  obtain ⟨-, hensured⟩ := ensures_annotations rules name parameters returns session trivial
  obtain ⟨parameterLines, resultLines, rfl, hwritten⟩ := hensured lines (by rw [hlines])
  refine ⟨parameterLines, resultLines, htext, ?_⟩
  clear hlines htext hrun hensured
  induction hwritten with
  | nil => exact .nil
  | cons hline _ ih =>
      obtain ⟨hname, hlater⟩ := List.forall_mem_cons.mp hnames
      obtain ⟨types, rfl⟩ := hline
      exact .cons ⟨⟨types, rfl⟩, annotates_parameterLine_iff hname _⟩ (ih hlater)

/-- A parameter that is named like the generic of its function has no line with its name. -/
theorem name_taken_for_generic :
    let settings : Settings := { types.generics := Table.ofList [("gui.get", "hash")] }
    let parameters : List Parameter := [⟨"hash", ["hash"], none, none⟩]
    let returns : List Parameter := [⟨"value", ["hash"], none, none⟩]
    ∃ rules, Rules.ofSettings settings false = .ok rules ∧
      (∀ parameter ∈ parameters,
        Readable (rules.parameterName parameter .parameter "gui.get")) ∧
      outcome (rules.renderFunction "gui.get" none parameters returns) {} =
        (.ok (some ("---\n---@generic T: hash\n---@param T hash \n---@return T value \n" ++
          "function gui.get(hash) end")), {}) := by
  intro settings parameters returns
  exact ⟨_, rfl, by decide +kernel, by decide +kernel⟩

end

end Stub
end ApiStubs
