import ApiStubs.Event
import ApiStubs.Pattern.Matcher
import ApiStubs.Reference.Fold
import ApiStubs.Table

/-!
# Signatures

A type list is rendered as a union.  Its constants are folded into aliases
first; then each type is replaced, checked and written in the way of the
annotations.  An unknown type becomes a sentinel, or ends a strict run.
-/

namespace ApiStubs

/-- A type that is neither known nor replaced, and the element it stands in. -/
structure UnknownType where
  type : String
  element : String
  deriving DecidableEq, Repr

def UnknownType.message (unknown : UnknownType) : String :=
  "Unknown type '" ++ unknown.type ++ "' in '" ++ unknown.element ++ "'"

/-- What a run has done so far. -/
structure Session where
  registry : Registry := {}
  events : List Event := []
  deriving DecidableEq, Repr

/-- A step of a run; what it has done stays done when it fails. -/
abbrev Rendering := ExceptT UnknownType (StateM Session)

def Rendering.report (event : Event) : Rendering Unit :=
  modify (fun session => { session with events := session.events ++ [event] })

inductive Role where
  | parameter
  | result
  deriving DecidableEq, Repr

def Role.name : Role → String
  | parameter => "param"
  | result => "return"

/-- Where a type list stands. -/
structure Position where
  element : String
  parameter : String
  role : Role
  deriving DecidableEq, Repr

structure TypeReplacement where
  pattern : Pattern.Compiled
  replacement : String

/-- How types are replaced and which are known. -/
structure TypeRules where
  strict : Bool
  sentinel : String
  known : List String
  replacements : List TypeReplacement
  perPosition : Table (Table String)

namespace TypeRules

/-- The key of a replacement that holds at one position only. -/
def localKey (position : Position) (type : String) : String :=
  position.role.name ++ "_" ++ type ++ "_" ++ position.parameter

/-- A replacement of the position wins over the first pattern that matches. -/
def replacementOf (rules : TypeRules) (position : Position) (type : String) :
    Option String :=
  match (rules.perPosition.get? position.element).bind (·.get? (localKey position type)) with
  | some replacement => some replacement
  | none =>
      (rules.replacements.find? (fun r => r.pattern.test type)).map (·.replacement)

def callableStart : String := "function("

def isKnown (rules : TypeRules) (ledger : Ledger) (type : String) : Bool :=
  rules.known.contains type || ledger.hasFull type ||
    Text.startsWith type callableStart

/-- A callable without parameters loses its brackets; one with parameters is a `fun`. -/
def callableForm (type : String) : String :=
  let type := Text.replace "function()" "function" type
  match Text.dropStart? callableStart type with
  | some rest => "fun(" ++ rest
  | none => type

/-- What a type is rendered as; `none` if it is unknown. -/
def judge (rules : TypeRules) (ledger : Ledger) (position : Position) (type : String) :
    Option String :=
  match rules.replacementOf position type with
  | some replacement => some (callableForm replacement)
  | none => if rules.isKnown ledger type then some (callableForm type) else none

def renderToken (rules : TypeRules) (position : Position) (token : String) :
    Rendering String := do
  let type := dropLiteralMark token
  match rules.judge (← get).registry.ledger position type with
  | some rendered => return rendered
  | none =>
      Rendering.report
        (.unknownType type position.element position.parameter rules.sentinel)
      if rules.strict then throw ⟨type, position.element⟩
      return rules.sentinel

/-- Renders types from left to right, each result once. -/
def renderTokens (rules : TypeRules) (position : Position) :
    List String → List String → Rendering (List String)
  | done, [] => return done
  | done, token :: rest => do
      let rendered ← rules.renderToken position token
      rules.renderTokens position (Reference.pushNew done rendered) rest

def foldRequest (request : Reference.Request) : Rendering Reference.Folded :=
  modifyGet (fun session =>
    let (registry, folded) := Reference.fold session.registry request
    (folded, { session with registry }))

/-- The union of a type list; an empty one is rendered as the sentinel. -/
def renderTypes (rules : TypeRules) (position : Position)
    (request : Reference.Request) : Rendering String := do
  let folded ← foldRequest request
  let rendered ← rules.renderTokens position [] folded.types
  return if rendered.isEmpty then rules.sentinel else Text.joinWith "|" rendered

end TypeRules
end ApiStubs
