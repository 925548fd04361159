import ApiStubs.Proofs.Rendering
import ApiStubs.Stub.Rules
import Mathlib.Data.List.Basic

/-!
# Replacements for one position

An element can have a table of replacements of its own.  The key of an entry is a role, a
type and a parameter with underscores between them, but types and parameters have
underscores as well, so a key does not say at which of them it is cut.  Two positions of
one element with the same role have one key exactly if what stands between the two cuts
ends the type of the one and begins the parameter of the other.
-/

namespace ApiStubs
namespace TypeRules

variable {rules : TypeRules} {first second position : Position}
  {type parameter longer shorter element key replacement : String}

/-! ## Where a key is cut -/

/-- The same text cut at a later underscore: what stands between the cuts has gone from the
parameter to the type. -/
def CutsLater (type parameter longer shorter : String) : Prop :=
  ∃ between, longer = type ++ "_" ++ between ∧ parameter = between ++ "_" ++ shorter

theorem same_or_cutsLater {between : List Char}
    (hlonger : longer.toList = type.toList ++ between)
    (hshorter : '_' :: parameter.toList = between ++ '_' :: shorter.toList) :
    (type = longer ∧ parameter = shorter) ∨ CutsLater type parameter longer shorter := by
  cases between with
  | nil =>
      left
      constructor
      · exact String.toList_inj.mp (by simpa using hlonger.symm)
      · exact String.toList_inj.mp (by simpa using hshorter)
  | cons mark between =>
      right
      obtain ⟨rfl, hparameter⟩ := List.cons_eq_cons.mp hshorter
      refine ⟨String.ofList between, ?_, ?_⟩
      · exact String.toList_inj.mp (by simpa using hlonger)
      · exact String.toList_inj.mp (by simpa using hparameter)

theorem joined_eq_iff :
    type ++ "_" ++ parameter = longer ++ "_" ++ shorter ↔
      (type = longer ∧ parameter = shorter) ∨
        CutsLater type parameter longer shorter ∨ CutsLater longer shorter type parameter := by
  constructor
  · intro hjoined
    have hchars : type.toList ++ '_' :: parameter.toList =
        longer.toList ++ '_' :: shorter.toList := by
      simpa using congrArg String.toList hjoined
    rcases List.append_eq_append_iff.mp hchars with
      ⟨between, hlonger, hshorter⟩ | ⟨between, htype, hparameter⟩
    · exact (same_or_cutsLater hlonger hshorter).imp_right Or.inl
    · rcases same_or_cutsLater htype hparameter with ⟨rfl, rfl⟩ | hlater
      · exact .inl ⟨rfl, rfl⟩
      · exact .inr (.inr hlater)
  · rintro (⟨rfl, rfl⟩ | ⟨between, rfl, rfl⟩ | ⟨between, rfl, rfl⟩)
    · rfl
    · simp only [String.append_assoc]
    · simp only [String.append_assoc]

/-- One key stands for a type at the first position and for another type at the second. -/
def Share (first : Position) (type : String) (second : Position) (other : String) : Prop :=
  first.role = second.role ∧
    ((type = other ∧ first.parameter = second.parameter) ∨
      CutsLater type first.parameter other second.parameter ∨
      CutsLater other second.parameter type first.parameter)

theorem localKey_eq_iff {other : String} :
    localKey first type = localKey second other ↔ Share first type second other := by
  have hkey : ∀ (position : Position) (type : String),
      localKey position type = position.role.name ++ ("_" ++ (type ++ "_" ++ position.parameter)) := by
    intro position type
    simp only [localKey, String.append_assoc]
  have hrest : ∀ start left right : String,
      start ++ ("_" ++ left) = start ++ ("_" ++ right) ↔ left = right := by
    intro start left right
    rw [← String.toList_inj, ← String.toList_inj]
    simp
  unfold Share
  rw [hkey, hkey, ← joined_eq_iff]
  -- The roles differ in their first letter.
  cases hfirst : first.role <;> cases hsecond : second.role
  · simp [hrest]
  · simp [Role.name, ← String.toList_inj]
  · simp [Role.name, ← String.toList_inj]
  · simp [hrest]

theorem CutsLater.has_underscore (hlater : CutsLater type parameter longer shorter) :
    '_' ∈ longer.toList ∧ '_' ∈ parameter.toList := by
  obtain ⟨between, rfl, rfl⟩ := hlater
  simp

/-- Where no type has an underscore, or no parameter has one, a key is cut in one way. -/
theorem Share.eq_of_noUnderscore {other : String} (hshare : Share first type second other)
    (hnone : ('_' ∉ type.toList ∧ '_' ∉ other.toList) ∨
      ('_' ∉ first.parameter.toList ∧ '_' ∉ second.parameter.toList)) :
    type = other ∧ first.parameter = second.parameter := by
  rcases hshare.2 with hsame | hlater | hlater
  · exact hsame
  · obtain ⟨hother, hparameter⟩ := hlater.has_underscore
    rcases hnone with htypes | hparameters
    · exact absurd hother htypes.2
    · exact absurd hparameter hparameters.1
  · obtain ⟨htype, hparameter⟩ := hlater.has_underscore
    rcases hnone with htypes | hparameters
    · exact absurd htype htypes.1
    · exact absurd hparameter hparameters.2

/-! ## The entry of a position -/

/-- The entry, key and replacement, that the table of its element has for a type. -/
def entryOf (rules : TypeRules) (position : Position) (type : String) :
    Option (String × String) :=
  (rules.perPosition.get? position.element).bind (fun table =>
    (table.get? (localKey position type)).map (fun replacement =>
      (localKey position type, replacement)))

theorem key_of_entryOf {entry : String × String}
    (hentry : rules.entryOf position type = some entry) : entry.1 = localKey position type := by
  obtain ⟨table, -, hfound⟩ := Option.bind_eq_some_iff.mp hentry
  obtain ⟨replacement, -, rfl⟩ := Option.map_eq_some_iff.mp hfound
  rfl

theorem replacementOf_of_entryOf {entry : String × String}
    (hentry : rules.entryOf position type = some entry) :
    rules.replacementOf position type = some entry.2 := by
  obtain ⟨table, htable, hfound⟩ := Option.bind_eq_some_iff.mp hentry
  obtain ⟨replacement, hget, rfl⟩ := Option.map_eq_some_iff.mp hfound
  unfold replacementOf
  rw [htable, Option.bind_some, hget]

/-- At one element, one key is one entry. -/
theorem entryOf_congr {other : String} (helement : first.element = second.element)
    (hkey : localKey first type = localKey second other) :
    rules.entryOf first type = rules.entryOf second other := by
  unfold entryOf
  rw [helement, hkey]

/-- Two positions of an element have one entry exactly if there is one for the first and
its key stands for the type of the second as well. -/
theorem exists_common_entry_iff {other : String} (helement : first.element = second.element) :
    (∃ entry, rules.entryOf first type = some entry ∧
        rules.entryOf second other = some entry) ↔
      (rules.entryOf first type).isSome = true ∧ Share first type second other := by
  rw [← localKey_eq_iff]
  constructor
  · rintro ⟨entry, hfirst, hsecond⟩
    refine ⟨Option.isSome_of_eq_some hfirst, ?_⟩
    rw [← key_of_entryOf hfirst, key_of_entryOf hsecond]
  · rintro ⟨hsome, hkey⟩
    obtain ⟨entry, hentry⟩ := Option.isSome_iff_exists.mp hsome
    exact ⟨entry, hentry, entryOf_congr helement hkey ▸ hentry⟩

/-! ## Writing an entry -/

/-- The rules with an entry in the table of an element. -/
def withEntry (rules : TypeRules) (element key replacement : String) : TypeRules :=
  let table := (rules.perPosition.get? element).getD .empty
  { rules with
    perPosition := rules.perPosition.insert element (table.insert key replacement) }

/-- An entry replaces the types that it is the entry of, and no others. -/
theorem replacementOf_withEntry (rules : TypeRules) (position : Position)
    (element key replacement type : String) :
    (rules.withEntry element key replacement).replacementOf position type =
      if position.element = element ∧ localKey position type = key then some replacement
      else rules.replacementOf position type := by
  unfold withEntry replacementOf
  rw [Table.get?_insert]
  by_cases helement : position.element = element
  · rw [if_pos helement, Option.bind_some, Table.get?_insert]
    by_cases hkey : localKey position type = key
    · rw [if_pos hkey, if_pos ⟨helement, hkey⟩]
    · rw [if_neg hkey, if_neg (fun hboth => hkey hboth.2), helement]
      cases rules.perPosition.get? element with
      | none => rfl
      | some table => rfl
  · rw [if_neg helement, if_neg (fun hboth => helement hboth.1)]

theorem judge_withEntry_of_ne (hkey : localKey position type ≠ key) (ledger : Ledger) :
    (rules.withEntry element key replacement).judge ledger position type =
      rules.judge ledger position type := by
  have hsame : (rules.withEntry element key replacement).replacementOf position type =
      rules.replacementOf position type := by
    rw [replacementOf_withEntry, if_neg (fun hboth => hkey hboth.2)]
  unfold judge
  rw [hsame]
  rfl

theorem outcome_renderToken_of_replacementOf {token : String}
    (hreplaced : rules.replacementOf position (dropLiteralMark token) = some replacement)
    (session : Session) :
    Rendering.outcome (rules.renderToken position token) session =
      (.ok (callableForm replacement), session) := by
  have hjudge : rules.judge session.registry.ledger position (dropLiteralMark token) =
      some (callableForm replacement) := by
    unfold judge
    rw [hreplaced]
  rw [Rendering.outcome_renderToken, hjudge]

theorem outcome_renderToken_withEntry_of_ne {token : String}
    (hkey : localKey position (dropLiteralMark token) ≠ key) (session : Session) :
    Rendering.outcome ((rules.withEntry element key replacement).renderToken position token)
        session =
      Rendering.outcome (rules.renderToken position token) session := by
  rw [Rendering.outcome_renderToken, Rendering.outcome_renderToken, judge_withEntry_of_ne hkey]
  rfl

/-- The entry of a position is what its type is replaced by.  Two positions of an element
have one entry exactly if their types and parameters are the same text cut at underscores,
in the same role; it is then cut at the same one if no type has any, or no parameter.  An
entry that is written for the one replaces the type of the other in this case, and changes
nothing for it in all others. -/
theorem entries_apart (rules : TypeRules) (element : String) (role otherRole : Role)
    (token otherToken parameter otherParameter : String) :
    let first : Position := ⟨element, parameter, role⟩
    let second : Position := ⟨element, otherParameter, otherRole⟩
    let type := dropLiteralMark token
    let other := dropLiteralMark otherToken
    (∀ entry, rules.entryOf first type = some entry → ∀ session,
      Rendering.outcome (rules.renderToken first token) session =
        (.ok (callableForm entry.2), session)) ∧
      ((∃ entry, rules.entryOf first type = some entry ∧
          rules.entryOf second other = some entry) ↔
        (rules.entryOf first type).isSome = true ∧ Share first type second other) ∧
      (Share first type second other →
        ('_' ∉ type.toList ∧ '_' ∉ other.toList) ∨
          ('_' ∉ parameter.toList ∧ '_' ∉ otherParameter.toList) →
        role = otherRole ∧ type = other ∧ parameter = otherParameter) ∧
      ∀ replacement session,
        let written := rules.withEntry element (localKey first type) replacement
        (Share first type second other →
          Rendering.outcome (written.renderToken second otherToken) session =
            (.ok (callableForm replacement), session)) ∧
        (¬ Share first type second other →
          Rendering.outcome (written.renderToken second otherToken) session =
            Rendering.outcome (rules.renderToken second otherToken) session) := by
  intro first second type other
  refine ⟨?_, exists_common_entry_iff rfl,
    fun hshare hnone => ⟨hshare.1, hshare.eq_of_noUnderscore hnone⟩, ?_⟩
  · intro entry hentry session
    exact outcome_renderToken_of_replacementOf (replacementOf_of_entryOf hentry) session
  · intro replacement session written
    rw [← localKey_eq_iff]
    constructor
    · intro hkey
      have hreplaced : written.replacementOf second other = some replacement := by
        rw [replacementOf_withEntry, if_pos ⟨rfl, hkey.symm⟩]
      exact outcome_renderToken_of_replacementOf hreplaced session
    · intro hkey
      exact outcome_renderToken_withEntry_of_ne (Ne.symm hkey) session

/-- The entry for the parameter `id_x` of type `node` is not that of a parameter `y`, of
whatever type. -/
theorem entries_apart_of_node_parameters :
    let rules : TypeRules := ⟨false, "any", ["node_id"], [],
      .ofList [("gui.set", .ofList [("param_node_id_x", "string")])]⟩
    let first : Position := ⟨"gui.set", "id_x", .parameter⟩
    let second : Position := ⟨"gui.set", "y", .parameter⟩
    let written := rules.withEntry "gui.set" (localKey first "node") "function()"
    rules.entryOf first "node" = some ("param_node_id_x", "string") ∧
      ¬ Share first "node" second "node_id" ∧
      Rendering.outcome (rules.renderToken first "node") {} = (.ok "string", {}) ∧
      Rendering.outcome (written.renderToken first "node") {} = (.ok "function", {}) ∧
      Rendering.outcome (written.renderToken second "type:node_id") {} = (.ok "node_id", {}) := by
  intro rules first second written
  have hmarked : dropLiteralMark "type:node_id" = "node_id" := by decide +kernel
  have hunmarked : dropLiteralMark "node" = "node" := by decide +kernel
  obtain ⟨hentry, -, -, hself⟩ := entries_apart rules "gui.set" .parameter .parameter "node" "node"
    "id_x" "id_x"
  obtain ⟨-, -, -, hother⟩ := entries_apart rules "gui.set" .parameter .parameter "node"
    "type:node_id" "id_x" "y"
  simp only [hmarked, hunmarked] at hentry hself hother
  have hfound : rules.entryOf first "node" = some ("param_node_id_x", "string") := by
    decide +kernel
  have hapart : ¬ Share first "node" second "node_id" := by
    rw [← localKey_eq_iff]
    decide +kernel
  refine ⟨hfound, hapart, hentry _ hfound {}, (hself "function()" {}).1 ?_, ?_⟩
  · exact ⟨rfl, .inl ⟨rfl, rfl⟩⟩
  · rw [(hother "function()" {}).2 hapart]
    decide +kernel

/-- A parameter `id_x` of type `node` and a parameter `x` of type `node_id` have one entry:
what is written for the one replaces the type of the other. -/
theorem one_entry_for_two_types :
    let settings : Settings := {
      types := { classes := ["node_id"] }
      replacements := {
        localTypes := .ofList [("gui.set", .ofList [("param_node_id_x", "string")])] } }
    let first : Position := ⟨"gui.set", "id_x", .parameter⟩
    let second : Position := ⟨"gui.set", "x", .parameter⟩
    ∃ rules unreplaced, Stub.typeRules settings false = .ok rules ∧
      Stub.typeRules { settings with replacements := {} } false = .ok unreplaced ∧
      rules.entryOf first "node" = some ("param_node_id_x", "string") ∧
      rules.entryOf second "node_id" = some ("param_node_id_x", "string") ∧
      Rendering.outcome (rules.renderToken first "node") {} = (.ok "string", {}) ∧
      Rendering.outcome (rules.renderToken second "node_id") {} = (.ok "string", {}) ∧
      Rendering.outcome (unreplaced.renderToken second "node_id") {} = (.ok "node_id", {}) := by
  intro settings first second
  refine ⟨_, _, rfl, rfl, ?_⟩
  decide +kernel

end TypeRules
end ApiStubs
