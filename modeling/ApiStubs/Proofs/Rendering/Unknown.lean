import ApiStubs.Proofs.Reference.CommonRun
import ApiStubs.Proofs.Reference.Dotted
import ApiStubs.Proofs.Reference.Outcome
import ApiStubs.Proofs.Rendering.Callable
import ApiStubs.Proofs.Stub.Rules
import ApiStubs.Settings.Check

/-!
# Types that end a strict run

A type is unknown if nothing replaces it and neither the settings nor the ledger name it.
The ledger names aliases and not constants, so a constant on its own is unknown unless an
alias has taken its name.  What a folded list has besides the declared types are aliases,
which are known, and the fallback, which the settings may leave out.
-/

namespace ApiStubs

/-! ## A constant alone -/

namespace Reference

variable {registry : Registry} {request : Request} {space name : String}

/-- A constant alone registers nothing. -/
theorem resolve_lone (hproper : registry.catalog.ProperNames)
    (hregistered : registry.catalog.Registered space name)
    (hdeclared : request.declared = [qualify space name]) :
    resolve registry request =
      (registry.ledger, knownAliases registry.ledger space [name]) := by
  have hnames : ∀ other ∈ [name], registry.catalog.Registered space other :=
    List.forall_mem_singleton.mpr hregistered
  have hlist : request.declared = [name].map (qualify space) := hdeclared
  rw [resolve, referred_qualify hlist, recorded_qualify hproper hnames (List.nodup_singleton name),
    bySpace_qualify (List.cons_ne_nil _ _), List.foldl_cons, List.foldl_nil]
  rfl

theorem fold_lone (hproper : registry.catalog.ProperNames)
    (hregistered : registry.catalog.Registered space name)
    (hlone : ∀ a ∈ registry.ledger.aliases, a.space = space → qualify space name ∉ a.members)
    (hdeclared : request.declared = [qualify space name]) :
    fold registry request = (registry, ⟨[qualify space name], [], none⟩) := by
  have hfind : registry.ledger.findByMember space (qualify space name) = none :=
    Ledger.findByMember_eq_none_iff.mpr hlone
  have hidle : (resolve registry request).2.produced = [] := by
    rw [resolve_lone hproper hregistered hdeclared, Substitution.produced_eq_nil_iff]
    simp [knownAliases, hfind]
  rw [fold_of_idle hidle, hdeclared]

/-! ## What a request adds to its types -/

/-- No token has a second mark behind its first one. -/
def Request.MarkedOnce (request : Request) : Prop :=
  ∀ type ∈ request.declared, Text.startsWith type literalMark = false

instance (request : Request) : Decidable request.MarkedOnce :=
  inferInstanceAs (Decidable (∀ _ ∈ _, _))

theorem startsWith_fullName (space name : String) :
    Text.startsWith (qualify space name) literalMark = Text.startsWith space literalMark :=
  startsWith_qualify (by decide) space name

/-- A space that is found in a type has no mark, and one in a description is made of
identifiers. -/
theorem space_unmarked_of_mem_recorded {catalog : Catalog} (hproper : catalog.ProperNames)
    (hmarked : request.MarkedOnce) {qualified : QualifiedName}
    (hrecorded : qualified ∈ recorded catalog (request.referred catalog)) :
    Text.startsWith qualified.space literalMark = false := by
  obtain ⟨fullName, hreferred, hread⟩ := read_of_mem_recorded hrecorded
  rcases mem_referred_cases hreferred with hdeclared | ⟨description, -, hscanned⟩
  · obtain ⟨-, rfl⟩ := QualifiedName.ofText?_eq_some_iff.mp hread
    rw [← startsWith_fullName qualified.space qualified.name]
    exact hmarked _ hdeclared
  · obtain ⟨mention, hmention, hnamed⟩ := List.mem_flatMap.mp hscanned
    obtain ⟨name, hname, rfl⟩ := mem_namedBy hnamed
    have hregistered := Catalog.registered_iff_mem_namesOf.mpr hname
    rw [qualify, QualifiedName.ofText?_text (hproper.proper hregistered), Option.some.injEq]
      at hread
    rw [← hread]
    have hcolon : ':' ∉ mention.space.toList :=
      (dotted_of_mem_mentions hmention).not_mem (by decide) (by decide)
    exact Text.startsWith_eq_false_of_not_mem (by decide) hcolon

/-- The aliases that a request puts among its types have no mark and are in the ledger. -/
theorem alias_of_fold (hwell : registry.WellFormed) (hmarked : request.MarkedOnce)
    {replacement : String} (halias : replacement ∈ (fold registry request).2.aliases) :
    dropLiteralMark replacement = replacement ∧
      (fold registry request).1.ledger.hasFull replacement = true := by
  rw [fold_aliases] at halias
  obtain ⟨fullName, hpair⟩ := Substitution.mem_produced.mp halias
  obtain ⟨a, ha, rfl, qualified, hrecorded, hspace⟩ := exists_alias_of_mem_resolve hwell hpair
  constructor
  · apply dropLiteralMark_eq_self
    rw [Alias.fullName, startsWith_fullName, ← hspace]
    exact space_unmarked_of_mem_recorded hwell.properNames hmarked hrecorded
  · rw [fold_ledger]
    exact (wellFormed_resolve hwell request).hasFull_iff.mpr ⟨a, ha, rfl⟩

theorem fallback_of_fold {primitive : Primitive}
    (hfallback : (fold registry request).2.fallback = some primitive) :
    primitive = fallbackOf request.declared := by
  rw [fold_eq] at hfallback
  split at hfallback
  next => contradiction
  next => exact (Option.some.inj hfallback).symm

/-- A fallback that is not declared is the default type. -/
theorem fallbackOf_cases (declared : List String) :
    (fallbackOf declared).name ∈ declared ∨
      fallbackOf declared = .integer ∧ "string" ∉ declared ∧ "hash" ∉ declared := by
  unfold fallbackOf
  by_cases hstring : "string" ∈ declared
  · rw [if_pos hstring]
    exact .inl hstring
  · by_cases hhash : "hash" ∈ declared
    · rw [if_neg hstring, if_pos hhash]
      exact .inl hhash
    · rw [if_neg hstring, if_neg hhash]
      exact .inr ⟨rfl, hstring, hhash⟩

end Reference

namespace TypeRules

open Rendering

variable {rules : TypeRules} {ledger : Ledger} {position : Position} {type : String}

theorem judge_eq_none_iff :
    rules.judge ledger position type = none ↔
      rules.replacementOf position type = none ∧ rules.isKnown ledger type = false := by
  rw [judge]
  cases rules.replacementOf position type with
  | some replacement => simp
  | none => cases rules.isKnown ledger type <;> simp

theorem isKnown_eq_false_iff :
    rules.isKnown ledger type = false ↔
      type ∉ rules.known ∧ ledger.hasFull type = false ∧
        Text.startsWith type callableStart = false := by
  rw [isKnown, Bool.or_eq_false_iff, Bool.or_eq_false_iff, and_assoc]
  simp

/-- A folded list of one type is rendered as this type is. -/
theorem outcome_renderTypes_of_fold {request : Reference.Request} {session : Session}
    {token : String}
    (hfold : Reference.fold session.registry request = (session.registry, ⟨[token], [], none⟩)) :
    outcome (rules.renderTypes position request) session =
      outcome (rules.renderToken position token) session := by
  rw [renderTypes, outcome_bind, outcome_foldRequest, hfold]
  simp only [renderTokens, outcome_bind]
  rcases outcome (rules.renderToken position token) session with ⟨rendered | unknown, reached⟩
  · rfl
  · simp [Reference.pushNew, Text.joinWith_singleton]

/-- A constant that is in no alias and that the settings do not name is unknown on its own,
unless an alias has its full name: then it is written like this alias, without a report. -/
theorem renderTypes_lone_constant {settings : Settings} {strict : Bool} {rules : Stub.Rules}
    (hrules : Stub.Rules.ofSettings settings strict = .ok rules) (operations : List Operation)
    (position : Position) (description : Option String) {constant : Constant}
    (hconstant : constant ∈ (Operation.performAll operations).registry.catalog.constants)
    (hdotted : Reference.Dotted constant.fullName)
    (hlone : ∀ a ∈ (Operation.performAll operations).registry.ledger.aliases,
      a.space = constant.space → constant.fullName ∉ a.members)
    (hunnamed : constant.fullName ∉
      settings.types.known ++ settings.types.classes ++ settings.types.aliases)
    (hunreplaced : rules.types.replacementOf position constant.fullName = none) :
    let session := Operation.performAll operations
    outcome (rules.types.renderTypes position ⟨[constant.fullName], description⟩) session =
      if ∃ a ∈ session.registry.ledger.aliases, a.fullName = constant.fullName then
        (.ok constant.fullName, session)
      else
        (if strict then .error ⟨constant.fullName, position.element⟩
          else .ok settings.types.unknown,
          { session with
            events := session.events ++ [.unknownType constant.fullName position.element
              position.parameter settings.types.unknown] }) := by
  intro session
  have hwell : session.registry.WellFormed := Operation.wellFormed_performAll operations
  obtain ⟨hstrict, hsentinel, hknown⟩ := Stub.Rules.types_of_ofSettings hrules
  have hcolon : ':' ∉ constant.fullName.toList := hdotted.not_mem (by decide) (by decide)
  have hunmarked : dropLiteralMark constant.fullName = constant.fullName :=
    dropLiteralMark_eq_self (Text.startsWith_eq_false_of_not_mem (by decide) hcolon)
  have hbracket : '(' ∉ constant.fullName.toList := hdotted.not_mem (by decide) (by decide)
  have hdeclared : Reference.Request.declared ⟨[constant.fullName], description⟩ =
      [constant.fullName] := by
    rw [Reference.Request.declared, List.map_singleton, hunmarked]
  have hregistered : session.registry.catalog.Registered constant.space constant.name :=
    ⟨constant, hconstant, rfl, rfl⟩
  have hfold := Reference.fold_lone hwell.properNames hregistered hlone hdeclared
  rw [outcome_renderTypes_of_fold hfold, outcome_renderToken, ← Constant.fullName, hunmarked]
  by_cases hhidden : ∃ a ∈ session.registry.ledger.aliases, a.fullName = constant.fullName
  · have hisKnown : rules.types.isKnown session.registry.ledger constant.fullName = true := by
      rw [isKnown, hwell.hasFull_iff.mpr hhidden, Bool.or_true, Bool.true_or]
    rw [if_pos hhidden, judge, hunreplaced]
    simp only [hisKnown, if_true, callableForm_of_not_mem hbracket]
  · have hunknown :
        rules.types.judge session.registry.ledger position constant.fullName = none := by
      refine judge_eq_none_iff.mpr ⟨hunreplaced, isKnown_eq_false_iff.mpr ⟨?_, ?_, ?_⟩⟩
      · rw [hknown]
        exact hunnamed
      · rw [Bool.eq_false_iff, Ne, hwell.hasFull_iff]
        exact hhidden
      · exact Text.startsWith_eq_false_of_not_mem (by decide) hbracket
    rw [if_neg hhidden, hunknown, hstrict, hsentinel]

/-- In a strict run, beside an alias of the space. -/
theorem renderTypes_lone_constant_strict :
    let session := Operation.performAll [.registerConstant "gui.MODE_ON" "",
      .registerConstant "gui.MODE_OFF" "", .registerConstant "gui.OTHER" "", .infer]
    let position : Position := ⟨"gui.set", "mode", .parameter⟩
    session.registry.ledger.aliases = [⟨"gui", "MODE", ["gui.MODE_ON", "gui.MODE_OFF"]⟩] ∧
      ∃ rules, Stub.Rules.ofSettings {} true = .ok rules ∧
        outcome (rules.types.renderTypes position ⟨["gui.OTHER"], none⟩) session =
          (.error ⟨"gui.OTHER", "gui.set"⟩,
            { session with
              events := session.events ++ [.unknownType "gui.OTHER" "gui.set" "mode" "any"] }) := by
  intro session position
  have haliases : session.registry.ledger.aliases =
      [⟨"gui", "MODE", ["gui.MODE_ON", "gui.MODE_OFF"]⟩] := by decide +kernel
  have hconstant : (⟨"gui", "OTHER", "", .integer⟩ : Constant) ∈
      session.registry.catalog.constants := by decide +kernel
  have hlone : ∀ a ∈ session.registry.ledger.aliases,
      a.space = "gui" → "gui.OTHER" ∉ a.members := by
    rw [haliases]
    decide
  have hrules : Stub.Rules.ofSettings {} true = .ok _ := rfl
  refine ⟨haliases, _, hrules, ?_⟩
  have hended := renderTypes_lone_constant hrules _ position none hconstant (by decide) hlone
    (by decide) rfl
  have hunseen : ¬ ∃ a ∈ session.registry.ledger.aliases, a.fullName = "gui.OTHER" := by
    rw [haliases]
    decide
  exact hended.trans (if_neg hunseen)

/-- An alias takes the name of a constant that is in no alias, and the constant is known. -/
theorem renderTypes_constant_named_like_alias :
    let session := Operation.performAll [.registerConstant "gui.MODE" "",
      .registerConstant "gui.MODE_ON" "", .registerConstant "gui.MODE_OFF" "", .infer]
    let position : Position := ⟨"gui.set", "mode", .parameter⟩
    let settings : Settings := {}
    ⟨"gui", "MODE", "", .integer⟩ ∈ session.registry.catalog.constants ∧
      Reference.Dotted "gui.MODE" ∧
      (∀ a ∈ session.registry.ledger.aliases, "gui.MODE" ∉ a.members) ∧
      "gui.MODE" ∉ settings.types.known ++ settings.types.classes ++ settings.types.aliases ∧
      "gui.MODE" ≠ settings.types.unknown ∧
      ∀ strict, ∃ rules, Stub.Rules.ofSettings settings strict = .ok rules ∧
        rules.types.replacementOf position "gui.MODE" = none ∧
        outcome (rules.types.renderTypes position ⟨["gui.MODE"], none⟩) session =
          (.ok "gui.MODE", session) := by
  intro session position settings
  refine ⟨by decide +kernel, by decide +kernel, by decide +kernel, by decide +kernel,
    by decide +kernel, fun strict => ⟨_, rfl, rfl, ?_⟩⟩
  cases strict <;> decide +kernel

/-! ## A run that ends -/

/-- A run through a list ends at one of its types, the ledger being as at the start. -/
theorem exists_unknown_of_renderTokens {done tokens : List String} {session reached : Session}
    {unknown : UnknownType}
    (herror : outcome (rules.renderTokens position done tokens) session =
      (.error unknown, reached)) :
    ∃ token ∈ tokens, unknown = ⟨dropLiteralMark token, position.element⟩ ∧
      rules.judge session.registry.ledger position (dropLiteralMark token) = none := by
  induction tokens generalizing done session with
  | nil => cases herror
  | cons token rest ih =>
      rw [renderTokens, outcome_bind, outcome_renderToken] at herror
      cases hjudge : rules.judge session.registry.ledger position (dropLiteralMark token) with
      | some rendered =>
          rw [hjudge] at herror
          obtain ⟨later, hlater, hunknown⟩ := ih herror
          exact ⟨later, List.mem_cons_of_mem token hlater, hunknown⟩
      | none =>
          rw [hjudge] at herror
          cases hstrict : rules.strict with
          | true =>
              simp only [hstrict, if_true, Prod.mk.injEq, Except.error.injEq] at herror
              exact ⟨token, List.mem_cons_self, herror.1.symm, hjudge⟩
          | false =>
              simp only [hstrict, Bool.false_eq_true, if_false] at herror
              obtain ⟨later, hlater, hunknown⟩ := ih herror
              exact ⟨later, List.mem_cons_of_mem token hlater, hunknown⟩

theorem exists_unknown_of_renderTypes {request : Reference.Request} {session reached : Session}
    {unknown : UnknownType}
    (herror : outcome (rules.renderTypes position request) session = (.error unknown, reached)) :
    ∃ token ∈ (Reference.fold session.registry request).2.types,
      unknown = ⟨dropLiteralMark token, position.element⟩ ∧
      rules.judge (Reference.fold session.registry request).1.ledger position
        (dropLiteralMark token) = none := by
  rw [renderTypes, outcome_bind, outcome_foldRequest] at herror
  simp only [outcome_bind] at herror
  split at herror
  next rendered reached' hrun => simp at herror
  next unknown' reached' hrun =>
    rw [Prod.mk.injEq, Except.error.injEq] at herror
    obtain ⟨rfl, rfl⟩ := herror
    simpa only using exists_unknown_of_renderTokens hrun

/-- A strict run ends at a declared type, or at the default fallback if the settings do not
name it and nothing replaces it.  It does not end at an alias. -/
theorem unknown_of_renderTypes {settings : Settings} {strict : Bool} {rules : Stub.Rules}
    (hrules : Stub.Rules.ofSettings settings strict = .ok rules) (operations : List Operation)
    (position : Position) {request : Reference.Request} (hmarked : request.MarkedOnce)
    {unknown : UnknownType} {reached : Session}
    (herror : outcome (rules.types.renderTypes position request)
      (Operation.performAll operations) = (.error unknown, reached)) :
    let folded := (Reference.fold (Operation.performAll operations).registry request).2
    unknown.element = position.element ∧ unknown.type ∉ folded.aliases ∧
      (unknown.type ∈ request.declared ∨
        unknown.type = "integer" ∧ folded.fallback = some .integer ∧
          "string" ∉ request.declared ∧ "hash" ∉ request.declared ∧
          "integer" ∉ settings.types.known ++ settings.types.classes ++ settings.types.aliases ∧
          rules.types.replacementOf position "integer" = none) := by
  intro folded
  have hwell : (Operation.performAll operations).registry.WellFormed :=
    Operation.wellFormed_performAll operations
  obtain ⟨-, -, hknown⟩ := Stub.Rules.types_of_ofSettings hrules
  obtain ⟨token, htoken, rfl, hjudge⟩ := exists_unknown_of_renderTypes herror
  obtain ⟨hunreplaced, hunknown⟩ := judge_eq_none_iff.mp hjudge
  obtain ⟨hunnamed, hnoAlias, -⟩ := isKnown_eq_false_iff.mp hunknown
  have hother : dropLiteralMark token ∉ folded.aliases := by
    intro halias
    have hheld := (Reference.alias_of_fold hwell hmarked halias).2
    exact Bool.false_ne_true (hnoAlias.symm.trans hheld)
  refine ⟨rfl, hother, ?_⟩
  rcases Reference.mem_fold_types htoken with
    hdeclared | ⟨pair, hpair, rfl⟩ | ⟨primitive, hfallback, rfl⟩
  · left
    rw [dropLiteralMark_eq_self (hmarked token hdeclared)]
    exact hdeclared
  · have halias : pair.2 ∈ folded.aliases := by
      rw [Reference.fold_aliases]
      exact Reference.Substitution.mem_produced.mpr ⟨pair.1, hpair⟩
    rw [(Reference.alias_of_fold hwell hmarked halias).1] at hother
    exact absurd halias hother
  · have hprimitive := Reference.fallback_of_fold hfallback
    have hunmarked : dropLiteralMark primitive.name = primitive.name := by
      cases primitive <;> decide
    simp only [hunmarked] at hunreplaced hunnamed ⊢
    rcases Reference.fallbackOf_cases request.declared with hdeclared | ⟨hinteger, hnone⟩
    · left
      rwa [hprimitive]
    · right
      rw [hprimitive, hinteger] at hfallback hunreplaced hunnamed ⊢
      rw [hknown] at hunnamed
      exact ⟨rfl, hfallback, hnone.1, hnone.2, hunnamed, hunreplaced⟩

/-- At the declared type that is not folded, with the alias and the fallback known. -/
theorem unknown_of_renderTypes_beside_alias :
    let operations : List Operation :=
      [.registerConstant "gui.MODE_ON" "", .registerConstant "gui.MODE_OFF" ""]
    let request : Reference.Request := ⟨["gui.MODE_ON", "type:texture", "type:gui.MODE_OFF"], none⟩
    let folded := (Reference.fold (Operation.performAll operations).registry request).2
    ∃ rules, Stub.Rules.ofSettings {} true = .ok rules ∧
      (outcome (rules.types.renderTypes ⟨"gui.set", "mode", .parameter⟩ request)
        (Operation.performAll operations)).1 = .error ⟨"texture", "gui.set"⟩ ∧
      folded.types = ["gui.MODE", "texture", "integer"] ∧ "texture" ∉ folded.aliases := by
  intro operations request folded
  have hmarked : request.MarkedOnce := by decide
  have hrules : Stub.Rules.ofSettings {} true = .ok _ := rfl
  refine ⟨_, hrules, ?_⟩
  generalize hrun : outcome (renderTypes _ _ request) (Operation.performAll operations) = run
  have hended : run.1 = .error ⟨"texture", "gui.set"⟩ := by
    rw [← hrun]
    decide +kernel
  have herror : run = (.error ⟨"texture", "gui.set"⟩, run.2) := Prod.ext hended rfl
  obtain ⟨-, hother, -⟩ := unknown_of_renderTypes hrules operations _ hmarked (hrun.trans herror)
  exact ⟨hended, by decide +kernel, hother⟩

/-- The settings may leave the fallback out, and it ends the run then. -/
theorem unknown_fallback_of_renderTypes :
    let session := Operation.performAll [.registerConstant "gui.MODE_ON" "",
      .registerConstant "gui.MODE_OFF" ""]
    let position : Position := ⟨"gui.set", "mode", .parameter⟩
    let request : Reference.Request := ⟨["gui.MODE_ON", "gui.MODE_OFF"], none⟩
    let settings : Settings := { types.known := ["nil"] }
    Settings.check settings = [] ∧ request.MarkedOnce ∧ "integer" ∉ request.declared ∧
      ∃ rules, Stub.Rules.ofSettings settings true = .ok rules ∧
        (outcome (rules.types.renderTypes position request) session).1 =
          .error ⟨"integer", "gui.set"⟩ := by
  intro session position request settings
  exact ⟨by decide +kernel, by decide, by decide, _, rfl, by decide +kernel⟩

end TypeRules
end ApiStubs
