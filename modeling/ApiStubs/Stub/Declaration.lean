import ApiStubs.Stub.Comment
import ApiStubs.Stub.Layout
import ApiStubs.Stub.Rules

/-!
# Declarations of elements

A function is declared with one line for each parameter and result; a type that
stands for its generic is replaced in these lines and declared if it occurs
twice.  Constants have no declarations, since they are fields of their namespace.
-/

namespace ApiStubs
namespace Stub

def varargs : String := "..."

def Rules.ignores (rules : Rules) (name : String) : Bool :=
  rules.ignored.any (·.test name)

/-- Names are replaced, first everywhere, then at the element. -/
def Rules.replacedName (rules : Rules) (parameter : Parameter) (role : Role)
    (element : String) : String :=
  let name := (rules.names.get? parameter.name).getD parameter.name
  ((rules.localNames.get? element).bind
    (·.get? (role.name ++ "_" ++ name))).getD name

def Rules.parameterName (rules : Rules) (parameter : Parameter) (role : Role)
    (element : String) : String :=
  let name := rules.replacedName parameter role element
  Text.replace "-" "_" (if Text.endsWith name varargs then varargs else name)

def Rules.renderTypes (rules : Rules) (parameter : Parameter) (role : Role)
    (name element : String) : Rendering String :=
  rules.types.renderTypes ⟨element, name, role⟩ ⟨parameter.types, parameter.doc⟩

def Rules.renderParameter (rules : Rules) (element : String) (parameter : Parameter) :
    Rendering String := do
  let name := rules.parameterName parameter .parameter element
  let types ← rules.renderTypes parameter .parameter name element
  return "---@param " ++ name ++ (if parameter.optional = some true then "? " else " ") ++
    types ++ " " ++ trailingDescription (parameter.doc.getD "")

def Rules.renderResult (rules : Rules) (element : String) (parameter : Parameter) :
    Rendering String := do
  let name := rules.parameterName parameter .result element
  let types ← rules.renderTypes parameter .result name element
  return "---@return " ++ types ++ " " ++ name ++ " " ++
    trailingDescription (parameter.doc.getD "")

/-- A line with its generic type replaced, and the number of replacements. -/
def applyGeneric (generic? : Option String) (line : String) : String × Nat :=
  match generic? with
  | none => (line, 0)
  | some generic => Text.replaceCounting (" " ++ generic ++ " ") " T " line

def genericLine (generic? : Option String) (count : Nat) : String :=
  match generic? with
  | none => ""
  | some generic => if 2 ≤ count then "---@generic T: " ++ generic ++ "\n" else ""

def Rules.signature (rules : Rules) (name : String) (parameters : List Parameter) :
    String :=
  Text.joinWith ", "
    (parameters.map (fun parameter => rules.parameterName parameter .parameter name))

/-- The declaration of a function from its annotation lines. -/
def functionText (description signature name : String) (generic? : Option String)
    (lines : List String) : String :=
  let applied := lines.map (applyGeneric generic?)
  comment commentMark description ++ "\n" ++
    genericLine generic? (applied.foldl (fun count line => count + line.2) 0) ++
    String.join (applied.map (·.1 ++ "\n")) ++
    "function " ++ name ++ "(" ++ signature ++ ") end"

/-- A function whose name is ignored has no declaration. -/
def Rules.renderFunction (rules : Rules) (name : String) (description : Option String)
    (parameters returns : List Parameter) : Rendering (Option String) := do
  if rules.ignores name then return none
  let parameterLines ← parameters.mapM (rules.renderParameter name)
  let resultLines ← returns.mapM (rules.renderResult name)
  return some
    (functionText (description.getD "") (rules.signature name parameters) name
      (rules.generics.get? name) (parameterLines ++ resultLines))

def variableText (name : String) (description : Option String) : String :=
  comment commentMark (description.getD "") ++ "\n" ++ name ++ " = nil"

/-- The entries of a table, ordered by name. -/
def byName {α : Type} (table : Table α) : List (String × α) :=
  table.entries.mergeSort (fun a b => Text.unitsLE a.1 b.1)

def operatorLine (entry : String × Operator) : String :=
  match entry.2.operand with
  | none => "---@operator " ++ entry.1 ++ ": " ++ entry.2.result
  | some operand =>
      "---@operator " ++ entry.1 ++ "(" ++ operand ++ "): " ++ entry.2.result

def classText (name : String) (fields : Table String) (global : Bool)
    (operators : Table Operator) : String :=
  Text.joinWith "\n"
    (["---@class " ++ name] ++
      (byName fields).map (fun entry => "---@field " ++ entry.1 ++ " " ++ entry.2) ++
      (byName operators).map operatorLine ++
      (if global then [name ++ " = {}"] else []))

def aliasText (name definition : String) : String :=
  "---@alias " ++ name ++ " " ++ definition

def Rules.render (rules : Rules) : Element → Rendering (Option String)
  | .function name description parameters returns =>
      rules.renderFunction name description parameters returns
  | .variable name description => return some (variableText name description)
  | .classType name fields global operators =>
      return some (classText name fields global operators)
  | .alias name definition => return some (aliasText name definition)
  | .constant _ _ => return none
  | .unsupported _ _ => return none

/-- The declarations of elements, in their order. -/
def Rules.declare (rules : Rules) : List Element → Rendering (List Declaration)
  | [] => return []
  | element :: rest => do
      let text? ← rules.render element
      let declared := match element.kind?, text? with
        | some kind, some text => [Declaration.mk kind text]
        | _, _ => []
      return declared ++ (← rules.declare rest)

end Stub
end ApiStubs
