import ApiStubs.Cli.Advice
import ApiStubs.Cli.Configuration

/-!
# Commands

A command line is run against a place: the answer holds the exit code, the lines
for the console, the log entries and the changes to the files.
-/

namespace ApiStubs
namespace Cli

/-- A line for the standard output or for the standard error output. -/
inductive Line where
  | out (text : String)
  | err (text : String)
  deriving DecidableEq, Repr

structure Answer where
  exitCode : Nat := 0
  message : Option String := none
  console : List Line := []
  entries : List Log.Entry := []
  changes : List Files.Change := []

/-- A command line, the variables around it and the place that it works in. -/
structure Context where
  arguments : List String
  environment : Settings.Environment
  colors : Bool

/-- Colors are used unless the display or the variable `NO_COLOR` rules them out. -/
def Context.make (colors? : Option Bool) (arguments : List String)
    (environment : Settings.Environment) : Context :=
  ⟨arguments, environment,
    colors?.getD (environment.lookup "NO_COLOR").isNone⟩

/-- An error between empty lines. -/
def displayError (colors : Bool) (kind? : Option ErrorKind) (message : String) :
    List Line :=
  [.err "", .err (formatError colors kind? none message), .err ""]

def failed (colors : Bool) (stage? : Option Emission.Stage) (message : String) :
    Answer :=
  { exitCode := 1
    message := some message
    console := displayError colors (stage?.map .ofStage) message }

def usageAnswer (fault : UsageFault) : Answer :=
  { exitCode := 1
    message := some fault.message
    console := [
      .err ("Error: " ++ fault.message),
      .err "\nRun \"annotate help generate\" for usage information."] }

def logger (settings : Settings) : Log.Logger :=
  ⟨"AnnotationGenerator", settings.generation.debug⟩

/-- What a successful run tells. -/
def report (dry : Bool) (output : OutputSettings)
    (units : List Generation.StubUnit) : List Line :=
  let count := toString units.length
  if dry then
    .out ("Would write " ++ count ++ " namespaces to " ++ output.folder ++ ":") ::
      units.map (fun stub => .out ("  " ++ stub.space ++ output.extension))
  else [.out ("Generated " ++ count ++ " namespaces in " ++ output.folder)]

/-- Runs the generator with settings. -/
def generateWith (place : Files.Place) (colors : Bool) (arguments : Arguments)
    (settings : Settings) : Answer :=
  let outcome := Emission.run place { settings, version := arguments.version }
    arguments.files arguments.dryRun
  let entries := (logger settings).entries (outcome.events.map Event.message)
  match outcome.result with
  | .error failure =>
      { failed colors failure.stage? failure.message with
        entries
        changes := outcome.changes }
  | .ok units =>
      { console := report arguments.dryRun settings.output units
        entries
        changes := outcome.changes }

def generate (place : Files.Place) (context : Context) : Answer :=
  match Arguments.parse context.arguments with
  | .error fault => usageAnswer fault
  | .ok arguments =>
      match settingsFor place arguments context.environment with
      | .error fault => failed context.colors fault.stage? fault.message
      | .ok settings => generateWith place context.colors arguments settings

def helpFor (topic : String) : Answer :=
  if topic = "generate" then { console := [.out generateHelp] }
  else
    { exitCode := 1
      console := [
        .err ("Unknown command: " ++ topic),
        .err "\nRun \"annotate help\" to see all available commands."] }

def help : List String → Answer
  | [] => { console := [.out generalHelp] }
  | topic :: _ => helpFor topic

def unknownCommand (command : String) : Answer :=
  { exitCode := 1
    console := [
      .err ("Error: Unknown command: " ++ command),
      .err "\nRun \"annotate help\" for usage information."] }

/-- Runs a command line. -/
def run (place : Files.Place) (arguments : List String)
    (environment : Settings.Environment) : Answer :=
  let command := arguments.head?.getD ""
  let rest := arguments.drop 1
  if ["", "help", "--help", "-h"].contains command then help rest
  else if ["version", "--version", "-v"].contains command then
    { console := [.out versionLine] }
  else if command = "generate" then
    if rest.contains "--help" || rest.contains "-h" then helpFor "generate"
    else generate place (Context.make none rest environment)
  else unknownCommand command

/-- The exit code and the lines for a command that ended or failed with a message. -/
def settle (colors : Bool) : Except String Int → Int × List Line
  | .ok exitCode => (exitCode, [])
  | .error message => (1, displayError colors none message)

end Cli
end ApiStubs
