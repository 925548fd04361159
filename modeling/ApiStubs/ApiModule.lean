import ApiStubs.Table

/-!
# Modules of an interface

A module describes the elements of one namespace.  Elements of a kind that is not
supported keep only their name and the kind they were given as.  Their texts are in
one form: code units as they were read, or characters to render.
-/

namespace ApiStubs

structure Parameter (τ : Type := String) where
  name : τ
  types : List τ
  doc : Option τ := none
  optional : Option Bool := none
  deriving DecidableEq, Repr

/-- An operator without an operand is unary. -/
structure Operator (τ : Type := String) where
  result : τ
  operand : Option τ := none
  deriving DecidableEq, Repr

inductive Element (τ : Type := String) where
  | constant (name : τ) (description : Option τ)
  | variable (name : τ) (description : Option τ)
  | function (name : τ) (description : Option τ)
      (parameters returns : List (Parameter τ))
  | classType (name : τ) (fields : Table τ τ) (global : Bool)
      (operators : Table (Operator τ) τ)
  | alias (name definition : τ)
  | unsupported (name kind : τ)
  deriving DecidableEq, Repr

/-- The kinds that can be rendered. -/
inductive ElementKind where
  | constant
  | variable
  | function
  | classType
  | alias
  deriving DecidableEq, Repr

def ElementKind.name : ElementKind → String
  | .constant => "constant"
  | .variable => "variable"
  | .function => "function"
  | .classType => "class"
  | .alias => "alias"

def ElementKind.all : List ElementKind :=
  [.constant, .function, .variable, .classType, .alias]

def ElementKind.ofName? {τ : Type} [DecidableEq τ] [Text.Form τ] (name : τ) :
    Option ElementKind :=
  ElementKind.all.find? (fun kind => Text.Form.ofText kind.name = name)

namespace Element

variable {τ : Type}

def name : Element τ → τ
  | .constant name _ => name
  | .variable name _ => name
  | .function name _ _ _ => name
  | .classType name _ _ _ => name
  | .alias name _ => name
  | .unsupported name _ => name

def kind? : Element τ → Option ElementKind
  | .constant _ _ => some .constant
  | .variable _ _ => some .variable
  | .function _ _ _ _ => some .function
  | .classType _ _ _ _ => some .classType
  | .alias _ _ => some .alias
  | .unsupported _ _ => none

def isRenderable (element : Element τ) : Bool :=
  element.kind?.isSome

end Element

structure ApiModule (τ : Type := String) where
  space : τ
  brief : τ
  description : τ
  elements : List (Element τ)
  deriving DecidableEq, Repr

/-! ## Texts in another form -/

variable {σ τ : Type}

def Parameter.map (f : σ → τ) (parameter : Parameter σ) : Parameter τ where
  name := f parameter.name
  types := parameter.types.map f
  doc := parameter.doc.map f
  optional := parameter.optional

def Operator.map (f : σ → τ) (operator : Operator σ) : Operator τ where
  result := f operator.result
  operand := operator.operand.map f

def Element.map (f : σ → τ) : Element σ → Element τ
  | .constant name description => .constant (f name) (description.map f)
  | .variable name description => .variable (f name) (description.map f)
  | .function name description parameters returns =>
      .function (f name) (description.map f) (parameters.map (·.map f)) (returns.map (·.map f))
  | .classType name fields global operators =>
      .classType (f name) (fields.mapEntries f f) global (operators.mapEntries f (·.map f))
  | .alias name definition => .alias (f name) (f definition)
  | .unsupported name kind => .unsupported (f name) (f kind)

namespace ApiModule

def map (f : σ → τ) (m : ApiModule σ) : ApiModule τ where
  space := f m.space
  brief := f m.brief
  description := f m.description
  elements := m.elements.map (·.map f)

/-- The first run of characters other than dots. -/
def firstSegment (name : String) : String :=
  String.ofList
    ((name.toList.dropWhile (· = '.')).takeWhile (· != '.'))

/-- A module without a namespace takes that of its first element. -/
def derivedSpace (m : ApiModule) : String :=
  if m.space = "" then (m.elements.head?.map (fun e => firstSegment e.name)).getD ""
  else m.space

/-- A later module adds its elements, and its description unless it is its title. -/
def absorb (first later : ApiModule) : ApiModule :=
  { first with
    description :=
      if later.description = later.brief then first.description
      else later.description
    elements := first.elements ++ later.elements }

/-- Files a module under its namespace. -/
def file (m : ApiModule) : List ApiModule → List ApiModule
  | [] => [{ m with space := m.derivedSpace }]
  | first :: rest =>
      if first.space = m.derivedSpace then first.absorb m :: rest
      else first :: file m rest

/-- One module for each namespace, in the order of first appearance. -/
def merge (modules : List ApiModule) : List ApiModule :=
  modules.foldl (fun merged m => file m merged) []

end ApiModule
end ApiStubs
