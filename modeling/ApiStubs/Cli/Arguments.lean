import ApiStubs.Text.Search

/-!
# Arguments of the generate command

Options and module files stand in any order.  The value of an option may not
start with a dash, and a later value replaces an earlier one.
-/

namespace ApiStubs
namespace Cli

structure Arguments where
  files : List String := []
  configPath : Option String := none
  outDir : Option String := none
  version : String := "0.0.0"
  strict : Bool := false
  dryRun : Bool := false
  deriving DecidableEq, Repr

inductive UsageFault where
  | missingValue (option : String)
  | unknownOption (option : String)
  | noFiles
  deriving DecidableEq, Repr

def UsageFault.message : UsageFault → String
  | missingValue option => "Option " ++ option ++ " requires a value"
  | unknownOption option => "Unknown option: " ++ option
  | noFiles => "No module files given"

/-- The options that take a value. -/
inductive ValueOption where
  | config
  | out
  | version
  deriving DecidableEq, Repr

def ValueOption.ofText? : String → Option ValueOption
  | "--config" => some .config
  | "-c" => some .config
  | "--out" => some .out
  | "-o" => some .out
  | "--version" => some .version
  | _ => none

namespace Arguments

def setValue (arguments : Arguments) (option : ValueOption) (value : String) :
    Arguments :=
  match option with
  | .config => { arguments with configPath := some value }
  | .out => { arguments with outDir := some value }
  | .version => { arguments with version := value }

/-- Takes an argument that has no value behind it. -/
def addPlain (arguments : Arguments) (argument : String) : Except UsageFault Arguments :=
  if argument = "--strict" then .ok { arguments with strict := true }
  else if argument = "--dry-run" then .ok { arguments with dryRun := true }
  else if Text.startsWith argument "-" then .error (.unknownOption argument)
  else .ok { arguments with files := arguments.files ++ [argument] }

def readFrom (arguments : Arguments) : List String → Except UsageFault Arguments
  | [] => .ok arguments
  | argument :: rest =>
      match ValueOption.ofText? argument with
      | none =>
          match arguments.addPlain argument with
          | .error fault => .error fault
          | .ok arguments => readFrom arguments rest
      | some option =>
          match rest with
          | [] => .error (.missingValue argument)
          | value :: rest =>
              if Text.startsWith value "-" then .error (.missingValue argument)
              else readFrom (arguments.setValue option value) rest

/-- The arguments of a command line, which names one module file at least. -/
def parse (arguments : List String) : Except UsageFault Arguments := do
  let parsed ← readFrom {} arguments
  if parsed.files.isEmpty then throw .noFiles
  return parsed

end Arguments
end Cli
end ApiStubs
