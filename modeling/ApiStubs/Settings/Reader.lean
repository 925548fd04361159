import ApiStubs.Document.Toml
import ApiStubs.Settings

/-!
# Reading settings from a document

A section or field that is missing keeps its default.  The fields of a section
are read in a fixed order, so that of several faults the first one is reported.
-/

namespace ApiStubs
namespace Settings

/-- Why a document gives no settings. -/
inductive Fault where
  | malformed
  | wrongKind (path expected found : String)
  | prohibitedKey (key path : String)
  deriving DecidableEq, Repr

def Fault.message : Fault → String
  | malformed => "Invalid TOML syntax: malformed document"
  | wrongKind path expected found =>
      "Invalid type for '" ++ path ++ "': expected " ++ expected ++ ", got " ++ found
  | prohibitedKey key path => "Prohibited key '" ++ key ++ "' found at '" ++ path ++ "'"

abbrev Reading := Except Fault

abbrev Fields := List (String × Document.Value)

def mismatch {α : Type} (value : Document.Value) (path expected : String) :
    Reading α :=
  .error (.wrongKind path expected value.plainKindName)

def readText (value : Document.Value) (path : String) : Reading String :=
  match value.text? with
  | some content => .ok content
  | none => mismatch value path "string"

def readFlag (value : Document.Value) (path : String) : Reading Bool :=
  match value.boolean? with
  | some truth => .ok truth
  | none => mismatch value path "boolean"

def readTextsFrom (path : String) : Nat → List Document.Value → Reading (List String)
  | _, [] => .ok []
  | index, item :: rest => do
      let first ← readText item (path ++ "[" ++ toString index ++ "]")
      return first :: (← readTextsFrom path (index + 1) rest)

def readTexts (value : Document.Value) (path : String) : Reading (List String) :=
  match value.items? with
  | some items => readTextsFrom path 0 items
  | none => mismatch value path "array"

/-- Keys that no table of settings may have. -/
def prohibitedKeys : List String := ["__proto__", "constructor", "prototype"]

def readEntries {α : Type} (readEntry : Document.Value → String → Reading α)
    (path : String) : Fields → Reading (List (String × α))
  | [] => .ok []
  | (key, value) :: rest => do
      if key ∈ prohibitedKeys then throw (.prohibitedKey key path)
      let first ← readEntry value (path ++ "." ++ key)
      return (key, first) :: (← readEntries readEntry path rest)

def readTable {α : Type} (readEntry : Document.Value → String → Reading α)
    (value : Document.Value) (path : String) : Reading (Table α) :=
  match value.entries? with
  | some entries => Table.ofList <$> readEntries readEntry path entries
  | none => mismatch value path "table"

def readNestedTable (value : Document.Value) (path : String) :
    Reading (Table (Table String)) :=
  readTable (readTable readText) value path

/-- The fields of a section; a missing section has none. -/
def readSection (root : Fields) (name : String) : Reading Fields :=
  match root.lookup name with
  | none => .ok []
  | some value =>
      match value.entries? with
      | some fields => .ok fields
      | none => mismatch value name "table"

/-- The field of a section, read if it is there. -/
def readField? {α : Type} (read : Document.Value → String → Reading α)
    (section_ : String) (fields : Fields) (name : String) : Reading (Option α) :=
  match fields.lookup name with
  | none => .ok none
  | some value => some <$> read value (section_ ++ "." ++ name)

def readField {α : Type} (read : Document.Value → String → Reading α)
    (section_ : String) (fields : Fields) (name : String) (default : α) : Reading α :=
  (·.getD default) <$> readField? read section_ fields name

def readOutput (fields : Fields) : Reading OutputSettings := do
  let base : OutputSettings := {}
  let texts := readField readText "output" fields
  let folder ← texts "folder" base.folder
  let extension ← texts "extension" base.extension
  let generatorUrl ← texts "generator_url" base.generatorUrl
  let product ← texts "product" base.product
  let classPrefix ← texts "class_prefix" base.classPrefix
  let disabledDiagnostics ←
    readField readTexts "output" fields "disabled_diagnostics" base.disabledDiagnostics
  return { folder, extension, generatorUrl, product, classPrefix, disabledDiagnostics }

/-- The field `extra_known` adds to the known types. -/
def readTypes (fields : Fields) : Reading TypeSettings := do
  let base : TypeSettings := {}
  let lists := readField readTexts "types" fields
  let known ← lists "known" base.known
  let extra ← lists "extra_known" []
  let unknown ← readField readText "types" fields "unknown" base.unknown
  let classes ← lists "classes" base.classes
  let aliases ← lists "aliases" base.aliases
  let generics ← readField (readTable readText) "types" fields "generics" base.generics
  return { known := known ++ extra, unknown, classes, aliases, generics }

/-- Replacements of names are added to the default ones. -/
def readReplacements (fields : Fields) : Reading ReplacementSettings := do
  let base : ReplacementSettings := {}
  let tables := readField (readTable readText) "replacements" fields
  let nested := readField readNestedTable "replacements" fields
  let types ← tables "types" base.types
  let names ← tables "names" {}
  let localTypes ← nested "local_types" base.localTypes
  let localNames ← nested "local_names" base.localNames
  return { types, names := base.names.overlay names, localTypes, localNames }

def readGeneration (fields : Fields) : Reading GenerationSettings := do
  let base : GenerationSettings := {}
  let flags := readField readFlag "generation" fields
  let strict ← flags "strict" base.strict
  let debug ← flags "debug" base.debug
  return { strict, debug }

def readDocument (root : Fields) : Reading Settings := do
  let output ← readOutput (← readSection root "output")
  let types ← readTypes (← readSection root "types")
  let replacements ← readReplacements (← readSection root "replacements")
  let ignored ← readSection root "ignore"
  let ignoredFunctions ← readField readTexts "ignore" ignored "functions" []
  let generation ← readGeneration (← readSection root "generation")
  return { output, types, replacements, ignoredFunctions, generation }

/-- The settings that a TOML text gives. -/
def parse (content : String) : Reading Settings :=
  match (Document.Toml.parse? content).bind Document.Value.entries? with
  | none => .error .malformed
  | some root => readDocument root

end Settings
end ApiStubs
