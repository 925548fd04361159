import ApiStubs.Table

/-!
# Settings

The settings of a run, in sections, with their defaults.
-/

namespace ApiStubs

/-- Where the stubs go and what every one of them begins with. -/
structure OutputSettings where
  folder : String := "api"
  extension : String := ".lua"
  generatorUrl : String := "https://example.com/api-annotations"
  product : String := "API"
  classPrefix : String := "api"
  disabledDiagnostics : List String := [
    "lowercase-global", "missing-return", "duplicate-doc-param",
    "duplicate-set-field", "args-after-dots"]
  deriving DecidableEq, Repr

/--
The types that are known, the sentinel for unknown ones, and the types that
become the generic of a function.
-/
structure TypeSettings where
  known : List String := [
    "nil", "boolean", "number", "integer", "string", "table", "function", "thread",
    "userdata", "lightuserdata", "any", "hash", "url", "node", "vector", "vector3",
    "vector4", "quaternion", "matrix4", "buffer", "constant"]
  unknown : String := "any"
  classes : List String := []
  aliases : List String := []
  generics : Table String := {}
  deriving DecidableEq, Repr

def defaultNames : Table String :=
  Table.ofList [("function", "func"), ("end", "_end"), ("repeat", "_repeat")]

/-- Replacements of types, by pattern, and of parameter names; both also by element. -/
structure ReplacementSettings where
  types : Table String := {}
  names : Table String := defaultNames
  localTypes : Table (Table String) := {}
  localNames : Table (Table String) := {}
  deriving DecidableEq, Repr

structure GenerationSettings where
  strict : Bool := false
  debug : Bool := false
  deriving DecidableEq, Repr

structure Settings where
  output : OutputSettings := {}
  types : TypeSettings := {}
  replacements : ReplacementSettings := {}
  ignoredFunctions : List String := []
  generation : GenerationSettings := {}
  deriving DecidableEq, Repr

end ApiStubs
