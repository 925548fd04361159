import ApiStubs.Cli.Arguments
import ApiStubs.Cli.Help
import ApiStubs.Emission
import ApiStubs.Files.Tree
import ApiStubs.Settings.Environment
import ApiStubs.Settings.Reader

/-!
# The settings of a command

Settings come from a file, then from the environment, then from the arguments.
A file that is named has to be there; the default one may be missing.
-/

namespace ApiStubs
namespace Cli

/-- Why a command has no settings. -/
inductive ConfigFault where
  | notFound (path : String)
  | unreadable (fault : Files.FileFault)
  | invalid (path : String) (fault : Settings.Fault)
  | coercion (fault : Settings.CoercionFault)
  deriving DecidableEq, Repr

namespace ConfigFault

def message : ConfigFault → String
  | notFound path => "Config file not found: " ++ path
  | unreadable fault => fault.message
  | invalid path fault => path ++ ": " ++ fault.message
  | coercion fault => fault.message

/-- A file that is there but cannot be read is no fault of the settings. -/
def stage? : ConfigFault → Option Emission.Stage
  | unreadable _ => none
  | _ => some .settings

end ConfigFault

/-- The settings of the file that a path leads to. -/
def readConfigFile (place : Files.Place) (path : String) :
    Except ConfigFault Settings := do
  let content ←
    (Files.Tree.contentOf path (place.tree.follow place.folder path)).mapError .unreadable
  (Settings.parse content).mapError (.invalid path)

def fileSettings (place : Files.Place) (path? : Option String) :
    Except ConfigFault Settings :=
  let path := path?.getD defaultConfigFile
  match place.tree.follow place.folder path, path? with
  | .ok _, _ => readConfigFile place path
  | .error _, some path => .error (.notFound path)
  | .error _, none => .ok {}

def loadSettings (place : Files.Place) (path? : Option String)
    (environment : Settings.Environment) : Except ConfigFault Settings := do
  let settings ← fileSettings place path?
  (settings.mergeEnvironment environment).mapError .coercion

def Arguments.override (arguments : Arguments) : Settings.Override :=
  { folder := arguments.outDir
    strict := if arguments.strict then some true else none }

/-- The settings that a generate command uses. -/
def settingsFor (place : Files.Place) (arguments : Arguments)
    (environment : Settings.Environment) : Except ConfigFault Settings :=
  (·.merge arguments.override) <$>
    loadSettings place arguments.configPath environment

end Cli
end ApiStubs
