import ApiStubs.Pattern.Matcher
import ApiStubs.Settings
import ApiStubs.Text.Blank
import ApiStubs.Text.Search

/-!
# Checking settings

Settings are checked before a run.  Every defect is reported, in a fixed order
of the fields.
-/

namespace ApiStubs
namespace Settings

/-- What is wrong with the value of a field. -/
inductive Reason where
  | blankType
  | blankFolder
  | extensionWithoutDot
  | blankEntry (list : String)
  | invalidPattern (fault : Pattern.Fault)
  deriving DecidableEq, Repr

structure Defect where
  field : String
  value : String
  reason : Reason
  deriving DecidableEq, Repr

def Defect.message (defect : Defect) : String :=
  match defect.reason with
  | .blankType => "'types.unknown' must be a non-empty type name"
  | .blankFolder => "'output.folder' must be a non-empty path"
  | .extensionWithoutDot =>
      "'output.extension' must start with '.', got '" ++ defect.value ++ "'"
  | .blankEntry list => "'" ++ list ++ "' entries must be non-empty"
  | .invalidPattern fault =>
      "Invalid pattern '" ++ defect.value ++ "': " ++ fault.message defect.value

def indexedField (list : String) (index : Nat) : String :=
  list ++ "[" ++ toString index ++ "]"

def checkEntries (list : String) (entries : List String) : List Defect :=
  entries.zipIdx.flatMap (fun entry =>
    if Text.allBlank entry.1 then
      [⟨indexedField list entry.2, entry.1, .blankEntry list⟩]
    else [])

def checkPattern (field pattern : String) : List Defect :=
  match Pattern.compile pattern with
  | .ok _ => []
  | .error fault => [⟨field, pattern, .invalidPattern fault⟩]

/-- The defects of settings, in the order of the fields. -/
def check (settings : Settings) : List Defect :=
  let blankType :=
    if Text.allBlank settings.types.unknown then
      [Defect.mk "types.unknown" settings.types.unknown .blankType]
    else []
  let blankFolder :=
    if Text.allBlank settings.output.folder then
      [Defect.mk "output.folder" settings.output.folder .blankFolder]
    else []
  let extension :=
    if Text.startsWith settings.output.extension "." then []
    else [Defect.mk "output.extension" settings.output.extension .extensionWithoutDot]
  blankType ++ blankFolder ++ extension ++
    checkEntries "types.known" settings.types.known ++
    checkEntries "types.classes" settings.types.classes ++
    checkEntries "types.aliases" settings.types.aliases ++
    settings.replacements.types.names.flatMap
      (fun pattern => checkPattern ("replacements.types." ++ pattern) pattern) ++
    settings.ignoredFunctions.zipIdx.flatMap
      (fun entry => checkPattern (indexedField "ignore.functions" entry.2) entry.1)

/-- The message for settings with defects. -/
def defectSummary (defects : List Defect) : String :=
  "Configuration validation failed:\n" ++
    Text.joinWith "\n"
      (defects.map (fun defect => "  - " ++ defect.field ++ ": " ++ defect.message))

end Settings
end ApiStubs
