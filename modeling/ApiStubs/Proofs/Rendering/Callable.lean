import ApiStubs.Proofs.QualifiedName
import ApiStubs.Proofs.Rendering
import ApiStubs.Proofs.Text.Replace

/-!
# Callables

A callable is known as it stands.  Brackets that hold nothing are dropped wherever they
follow the word, also where a result follows them, and what is left is written as a `fun`
only if it still begins with a bracket.
-/

namespace ApiStubs
namespace TypeRules

open Text (NoStart)

/-- The brackets that are dropped, with the word before them. -/
def emptyCallable : String := "function()"

theorem callableForm_of_start {type rest : String}
    (htype : Text.replace emptyCallable "function" type = callableStart ++ rest) :
    callableForm type = "fun(" ++ rest := by
  unfold emptyCallable at htype
  unfold callableForm
  simp only [htype, Text.dropStart?_append]

theorem callableForm_of_not_start {type : String}
    (hother : Text.startsWith (Text.replace emptyCallable "function" type) callableStart = false) :
    callableForm type = Text.replace emptyCallable "function" type := by
  unfold emptyCallable at hother ⊢
  unfold callableForm
  simp only [Text.dropStart?_eq_none hother]

theorem callableForm_of_not_mem {type : String} (hbracket : '(' ∉ type.toList) :
    callableForm type = type := by
  have hstays : Text.replace emptyCallable "function" type = type := by
    apply Text.replace_of_not_holds
    rw [Bool.eq_false_iff, Ne, Text.holds_iff]
    exact fun hinside => hbracket (hinside.subset (by decide))
  have hother : Text.startsWith type callableStart = false :=
    Text.startsWith_eq_false_of_not_mem (by decide) hbracket
  rw [callableForm_of_not_start, hstays]
  rw [hstays]
  exact hother

/-- Where the first brackets hold something, they stay. -/
theorem callableForm_start {rest : String} (hrest : Text.startsWith rest ")" = false) :
    callableForm (callableStart ++ rest) =
      "fun(" ++ Text.replace emptyCallable "function" rest := by
  have hstays : NoStart emptyCallable.toList callableStart.toList rest.toList := by
    have hstart : callableStart.toList = 'f' :: "unction(".toList := by decide
    have hpart : emptyCallable.toList = callableStart.toList ++ ")".toList := by decide
    intro inner hinner hne hbegins
    rw [hstart] at hinner
    rcases List.suffix_cons_iff.mp hinner with rfl | hlater
    · -- The whole beginning: a closing bracket would have to follow.
      rw [hpart, ← hstart] at hbegins
      have hclosing := (List.prefix_append_right_inj _).mp hbegins
      rw [Bool.eq_false_iff, Ne, Text.startsWith_iff] at hrest
      exact hrest hclosing
    · have hhead : emptyCallable.toList.head? = some 'f' := by decide
      exact Text.noStart_of_not_mem hhead (by decide) inner hlater hne hbegins
  exact callableForm_of_start (Text.replace_append hstays)

/-- The first bracket of what follows the parameters is a closing one. -/
theorem noStart_parameters {parameters : List Char}
    (hparameters : ∀ c ∈ parameters, c ≠ '(' ∧ c ≠ ')') (rest : List Char) :
    NoStart emptyCallable.toList parameters (')' :: rest) := by
  intro inner hinner _ hbegins
  obtain ⟨after, hafter⟩ := hbegins
  have hfirst := congrArg (List.find? (fun c => c = '(' || c = ')')) hafter
  have hinnerNone : inner.find? (fun c => c = '(' || c = ')') = none := by
    rw [List.find?_eq_none]
    intro c hc
    simpa using hparameters c (hinner.subset hc)
  have hopening : emptyCallable.toList.find? (fun c => c = '(' || c = ')') = some '(' := by decide
  rw [List.find?_append, List.find?_append, hinnerNone, hopening] at hfirst
  simp at hfirst

/-- Of a callable without brackets in its parameters, only the result is rewritten. -/
theorem callableForm_callable {parameters : String}
    (hparameters : ∀ c ∈ parameters.toList, c ≠ '(' ∧ c ≠ ')') (hne : parameters ≠ "")
    (result : String) :
    callableForm (callableStart ++ (parameters ++ ("): " ++ result))) =
      "fun(" ++ (parameters ++ ("): " ++ Text.replace emptyCallable "function" result)) := by
  have hopen : Text.startsWith (parameters ++ ("): " ++ result)) ")" = false := by
    cases hchars : parameters.toList with
    | nil => exact absurd (by simpa using hchars) hne
    | cons c cs =>
        have hc := (hparameters c (by simp [hchars])).2
        simp [Text.startsWith, hchars, List.isPrefixOf, Ne.symm hc]
  have hparametersStay :
      NoStart emptyCallable.toList parameters.toList ("): " ++ result).toList := by
    rw [String.toList_append]
    exact noStart_parameters hparameters _
  have hcolonStays : NoStart emptyCallable.toList "): ".toList result.toList :=
    Text.noStart_of_not_mem (c := 'f') (by decide) (by decide)
  rw [callableForm_start hopen, Text.replace_append hparametersStay,
    Text.replace_append hcolonStays]

/-- Without parameters the brackets go, and it does not become a `fun`. -/
theorem callableForm_without_parameters (result : String) :
    callableForm (emptyCallable ++ (": " ++ result)) =
      "function: " ++ Text.replace emptyCallable "function" result := by
  have hcolonStays : NoStart emptyCallable.toList ": ".toList result.toList :=
    Text.noStart_of_not_mem (c := 'f') (by decide) (by decide)
  have hreplaced : Text.replace emptyCallable "function" (emptyCallable ++ (": " ++ result)) =
      "function: " ++ Text.replace emptyCallable "function" result := by
    rw [Text.replace_part_append (by decide), Text.replace_append hcolonStays,
      ← String.append_assoc]
    rfl
  rw [callableForm_of_not_start, hreplaced]
  rw [hreplaced, Text.startsWith_append (by decide)]
  decide

/-- The text of a callable: its parameters in brackets, and its result. -/
def callable (parameters result : String) : String :=
  callableStart ++ parameters ++ "): " ++ result

theorem judge_callable {rules : TypeRules} {position : Position} {parameters result : String}
    (hunreplaced : rules.replacementOf position (callable parameters result) = none)
    (ledger : Ledger) :
    rules.judge ledger position (callable parameters result) =
      some (callableForm (callable parameters result)) := by
  have hcallable : Text.startsWith (callable parameters result) callableStart = true := by
    rw [callable, String.append_assoc, String.append_assoc]
    exact Text.startsWith_append_self _ _
  have hknown : rules.isKnown ledger (callable parameters result) = true := by
    rw [isKnown, hcallable, Bool.or_true]
  rw [judge, hunreplaced]
  simp only [hknown, if_true]

/-- A callable that is not replaced keeps its parameters and becomes a `fun`, with the empty
brackets in its result dropped.  Without parameters its own brackets are dropped as well, and
the word before them stays. -/
theorem renderToken_callable (rules : TypeRules) (position : Position) (session : Session)
    {parameters result : String} (hparameters : ∀ c ∈ parameters.toList, c ≠ '(' ∧ c ≠ ')')
    (hunreplaced : rules.replacementOf position (callable parameters result) = none) :
    Rendering.outcome (rules.renderToken position (callable parameters result)) session =
      (.ok (if parameters = "" then "function: " ++ Text.replace "function()" "function" result
        else "fun(" ++ parameters ++ "): " ++ Text.replace "function()" "function" result),
        session) := by
  have hunmarked : dropLiteralMark (callable parameters result) = callable parameters result := by
    apply dropLiteralMark_eq_self
    rw [callable, String.append_assoc, String.append_assoc, Text.startsWith_append (by decide)]
    decide
  rw [Rendering.outcome_renderToken, hunmarked, judge_callable hunreplaced]
  simp only
  by_cases hempty : parameters = ""
  · have hchars : callable "" result = emptyCallable ++ (": " ++ result) := by
      have hword : callableStart ++ "): " = emptyCallable ++ ": " := by decide
      rw [callable, String.append_empty, hword, String.append_assoc]
    rw [if_pos hempty, hempty, hchars, callableForm_without_parameters]
    rfl
  · have hform := callableForm_callable hparameters hempty result
    rw [if_neg hempty, callable]
    simp only [String.append_assoc, hform]
    rfl

/-- No parameters are written as they stand, although the brackets are not those of an empty
callable. -/
theorem renderToken_callable_without_parameters :
    let rules : TypeRules := ⟨false, "any", ["number"], [], {}⟩
    let position : Position := ⟨"gui.set", "callback", .parameter⟩
    rules.replacementOf position "function(): number" = none ∧
      Rendering.outcome (rules.renderToken position "function(): number") {} =
        (.ok "function: number", {}) ∧
      Rendering.outcome (rules.renderToken position "function(self): function()") {} =
        (.ok "fun(self): function", {}) := by
  decide +kernel

end TypeRules
end ApiStubs
