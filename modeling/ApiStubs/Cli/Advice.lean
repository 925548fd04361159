import ApiStubs.Emission
import ApiStubs.Text.Lowercase

/-!
# Advice on errors

An error is shown with suggestions for its kind.  The kind follows from the stage
that failed, or is guessed from words of the message.
-/

namespace ApiStubs
namespace Cli

inductive ErrorKind where
  | config
  | modules
  | unknownType
  | file
  | unknown
  deriving DecidableEq, Repr

namespace ErrorKind

def all : List ErrorKind := [config, modules, unknownType, file, unknown]

def name : ErrorKind → String
  | config => "config_error"
  | modules => "module_error"
  | unknownType => "unknown_type"
  | file => "file_error"
  | unknown => "unknown"

def ofStage : Emission.Stage → ErrorKind
  | .settings => config
  | .modules => modules
  | .types => unknownType
  | .writing => file

/-- Words that tell the kind of an error, the first that occur counting. -/
def clues : List (ErrorKind × List String) := [
  (unknownType, ["unknown type"]),
  (config, ["config", "annotations.toml", "environment variable"]),
  (modules, ["module", "element"]),
  (file, ["enoent", "eacces", "no such file", "permission denied", "path"])]

def ofMessage (message : String) : ErrorKind :=
  let lower := Text.lowercase message
  ((clues.find? (fun clue => clue.2.any (Text.holds lower))).map (·.1)).getD unknown

end ErrorKind

structure Suggestion where
  text : String
  action : Option String := none
  deriving DecidableEq, Repr

def suggestions : ErrorKind → List Suggestion
  | .config => [
      ⟨"Check annotations.toml for syntax errors", none⟩,
      ⟨"Make sure replacement and ignore patterns are valid regular expressions", none⟩,
      ⟨"Choose an output folder that does not contain the working directory or a module file",
        none⟩,
      ⟨"Check the ANNOTATIONS_* environment variables", some "annotate help generate"⟩]
  | .modules => [
      ⟨"Check that the module file named in the message exists", none⟩,
      ⟨"Module files must use the .toml or .json extension", none⟩,
      ⟨"Every element needs a kind and a name", none⟩]
  | .unknownType => [
      ⟨"Add the type to types.known, types.classes or types.aliases", none⟩,
      ⟨"Map the type with a replacements.types pattern", none⟩,
      ⟨"Run without --strict to substitute the unknown type sentinel",
        some "annotate generate <module files...>"⟩]
  | .file => [
      ⟨"Check that module namespaces are valid file names", none⟩,
      ⟨"Check write permissions for the output folder",
        some "annotate generate <module files...> --out <dir>"⟩]
  | .unknown => [
      ⟨"Run with debug logging for more detail",
        some "ANNOTATIONS_DEBUG=1 annotate generate <module files...>"⟩,
      ⟨"Report the issue if it persists", none⟩]

/-- The ways in which a text can be set off on a terminal. -/
inductive Style where
  | bold
  | dim
  | red
  | yellow
  deriving DecidableEq, Repr

def Style.code : Style → String
  | bold => "\x1b[1m"
  | dim => "\x1b[2m"
  | red => "\x1b[31m"
  | yellow => "\x1b[33m"

def styled (colors : Bool) (style : Style) (text : String) : String :=
  if colors then style.code ++ text ++ "\x1b[0m" else text

def Suggestion.render (colors : Bool) (number : Nat) (suggestion : Suggestion) :
    String :=
  "\n  " ++ styled colors .yellow (toString number ++ ".") ++ " " ++ suggestion.text ++
    match suggestion.action with
    | none => ""
    | some action => "\n    " ++ styled colors .dim action

/-- An error with the file that it refers to, if any, and the suggestions. -/
def formatError (colors : Bool) (kind? : Option ErrorKind) (file? : Option String)
    (message : String) : String :=
  let kind := kind?.getD (ErrorKind.ofMessage message)
  let fileLine := match file? with
    | none => ""
    | some file => "\n  " ++ styled colors .yellow "File:" ++ " " ++ file
  styled colors .red "Error:" ++ " " ++ message ++ fileLine ++ "\n\n" ++
    styled colors .bold "Suggestions:" ++
    String.join ((suggestions kind).zipIdx.map (fun entry =>
      entry.1.render colors (entry.2 + 1)))

end Cli
end ApiStubs
