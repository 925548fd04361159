import ApiStubs.Settings.Override
import ApiStubs.Text.Blank
import ApiStubs.Text.Lowercase
import ApiStubs.Text.Search

/-!
# Settings from the environment

A few variables override settings.  An empty variable counts as missing; a flag
is read from one of a few words.
-/

namespace ApiStubs
namespace Settings

/-- The settings that a variable can override. -/
inductive Variable where
  | strict
  | debug
  | folder
  | generatorUrl
  | product
  | unknownType
  deriving DecidableEq, Repr

namespace Variable

/-- The variables in the order in which they are read. -/
def all : List Variable :=
  [strict, debug, folder, generatorUrl, product, unknownType]

def name : Variable → String
  | strict => "ANNOTATIONS_STRICT"
  | debug => "ANNOTATIONS_DEBUG"
  | folder => "ANNOTATIONS_OUTPUT_FOLDER"
  | generatorUrl => "ANNOTATIONS_GENERATOR_URL"
  | product => "ANNOTATIONS_PRODUCT"
  | unknownType => "ANNOTATIONS_UNKNOWN_TYPE"

def field : Variable → String
  | strict => "generation.strict"
  | debug => "generation.debug"
  | folder => "output.folder"
  | generatorUrl => "output.generator_url"
  | product => "output.product"
  | unknownType => "types.unknown"

def isFlag : Variable → Bool
  | strict => true
  | debug => true
  | _ => false

def valueKind (v : Variable) : String :=
  if v.isFlag then "boolean" else "string"

/-- The line that documents a variable. -/
def documentation (v : Variable) : String :=
  v.name ++ "  " ++ v.field ++ " (" ++ v.valueKind ++ ")"

end Variable

/-- A value that cannot be read as what its variable expects. -/
structure CoercionFault where
  variableName : String
  value : String
  expected : String
  message : String
  deriving DecidableEq, Repr

namespace CoercionFault

def plainMessage (variableName value expected : String) : String :=
  "Cannot coerce environment variable '" ++ variableName ++ "' value '" ++ value ++
    "' to " ++ expected

/-- A fault with its own message or the plain one. -/
def ofMessage? (variableName value expected : String) (message? : Option String) :
    CoercionFault :=
  ⟨variableName, value, expected,
    message?.getD (plainMessage variableName value expected)⟩

end CoercionFault

def trueWords : List String := ["true", "1", "yes", "on"]

def falseWords : List String := ["false", "0", "no", "off"]

def flagMessage (variableName value : String) : String :=
  "Cannot coerce '" ++ variableName ++ "' value '" ++ value ++
    "' to boolean. Expected one of: " ++ Text.joinWith ", " (trueWords ++ falseWords)

def readFlagWord (v : Variable) (value : String) : Except CoercionFault Bool :=
  let word := Text.lowercase (Text.trim value)
  if word ∈ trueWords then .ok true
  else if word ∈ falseWords then .ok false
  else
    .error (.ofMessage? v.name value "boolean" (some (flagMessage v.name value)))

/-- The override with the setting of one variable. -/
def applyVariable (upper : Override) (v : Variable) (value : String) :
    Except CoercionFault Override :=
  match v with
  | .strict => (fun flag => { upper with strict := some flag }) <$> readFlagWord v value
  | .debug => (fun flag => { upper with debug := some flag }) <$> readFlagWord v value
  | .folder => .ok { upper with folder := some value }
  | .generatorUrl => .ok { upper with generatorUrl := some value }
  | .product => .ok { upper with product := some value }
  | .unknownType => .ok { upper with unknown := some value }

/-- The variables of an environment, by name. -/
abbrev Environment := List (String × String)

/-- The variables that are set, with their values. -/
def setVariables (environment : Environment) : List (Variable × String) :=
  Variable.all.filterMap (fun v =>
    match environment.lookup v.name with
    | none => none
    | some value => if value = "" then none else some (v, value))

structure EnvironmentReading where
  override : Override := {}
  applied : List Variable := []
  faults : List CoercionFault := []
  deriving DecidableEq, Repr

/-- Goes on by one variable, unless its value cannot be read. -/
def EnvironmentReading.apply (reading : EnvironmentReading) (v : Variable)
    (value : String) : Except CoercionFault EnvironmentReading :=
  (fun override => { reading with override, applied := reading.applied ++ [v] }) <$>
    applyVariable reading.override v value

def EnvironmentReading.add (reading : EnvironmentReading) (v : Variable)
    (value : String) : EnvironmentReading :=
  match reading.apply v value with
  | .ok next => next
  | .error fault => { reading with faults := reading.faults ++ [fault] }

/-- Reads all variables and collects the faults. -/
def readEnvironment (environment : Environment) : EnvironmentReading :=
  (setVariables environment).foldl
    (fun reading entry => reading.add entry.1 entry.2) {}

/-- Reads the variables up to the first fault. -/
def readUntilFault (environment : Environment) : Except CoercionFault EnvironmentReading :=
  (setVariables environment).foldlM
    (fun reading entry => reading.apply entry.1 entry.2) {}

/-- The override of an environment, or the first fault. -/
def environmentOverride (environment : Environment) : Except CoercionFault Override :=
  (·.override) <$> readUntilFault environment

def mergeEnvironment (settings : Settings) (environment : Environment) :
    Except CoercionFault Settings :=
  settings.merge <$> environmentOverride environment

end Settings
end ApiStubs
