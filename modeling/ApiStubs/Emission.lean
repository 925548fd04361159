import ApiStubs.ApiModule.Load
import ApiStubs.Generation
import ApiStubs.Settings.Check

/-!
# Writing stubs to files

A run checks its settings, makes sure that the output folder holds nothing that
it needs, loads the modules, generates the stubs and only then touches the
files: it clears the output folder and writes one file for each stub.
-/

namespace ApiStubs
namespace Emission

/-- The stage at which a run failed. -/
inductive Stage where
  | settings
  | modules
  | types
  | writing
  deriving DecidableEq, Repr

def Stage.code : Stage → String
  | settings => "CONFIG_ERROR"
  | modules => "MODULE_PARSE_ERROR"
  | types => "UNKNOWN_TYPE"
  | writing => "FILE_WRITE_ERROR"

def Stage.all : List Stage := [settings, modules, types, writing]

/-- Why a file could not be written. -/
inductive WriteFault where
  | path (fault : Files.PathFault)
  | file (fault : Files.FileFault)
  deriving DecidableEq, Repr

def WriteFault.message : WriteFault → String
  | path fault => fault.message
  | file fault => fault.message

inductive Failure where
  | defects (found : List Settings.Defect)
  | folderInUse (folder target : String)
  | invalidPath (fault : Files.PathFault)
  | modules (fault : ApiModule.Fault)
  | invalidPattern (invalid : Stub.InvalidPattern)
  | unknownType (unknown : UnknownType)
  | writing (fault : WriteFault)
  deriving DecidableEq, Repr

namespace Failure

/-- The stage of a failure; a path or pattern at fault belongs to none. -/
def stage? : Failure → Option Stage
  | defects _ => some .settings
  | folderInUse _ _ => some .settings
  | invalidPath _ => none
  | modules _ => some .modules
  | invalidPattern _ => none
  | unknownType _ => some .types
  | writing _ => some .writing

def message : Failure → String
  | defects found => Settings.defectSummary found
  | folderInUse folder target =>
      "Output folder '" ++ folder ++ "' contains '" ++ target ++
        "' and would be deleted"
  | invalidPath fault => fault.message
  | modules fault => fault.message
  | invalidPattern invalid => invalid.message
  | unknownType unknown => unknown.message
  | writing fault => "Failed to write annotations: " ++ fault.message

def ofGeneration : Generation.Failure → Failure
  | .invalidPattern invalid => invalidPattern invalid
  | .unknownType unknown => unknownType unknown

end Failure

/-- The first of the targets that lies in the output folder is reported. -/
def checkFolder (folder : Files.Path) (output : String) :
    List String → Except Failure Unit
  | [] => .ok ()
  | target :: rest =>
      match Files.contains folder output target with
      | .error fault => .error (.invalidPath fault)
      | .ok true => .error (.folderInUse output target)
      | .ok false => checkFolder folder output rest

/-- The modules of a run whose settings and output folder are in order. -/
def prepare (place : Files.Place) (options : Generation.Options) (files : List String) :
    Except Failure (List ApiModule) := do
  let settings := options.settings
  let defects := settings.check
  if defects != [] then throw (.defects defects)
  checkFolder place.folder settings.output.folder (place.folder.text :: files)
  (ApiModule.load place files).mapError .modules

/-- The tree after the changes so far, the changes, and what was reported. -/
structure Progress where
  tree : Files.Tree
  changes : List Files.Change := []
  events : List Event := []

/-- A step of writing; what it has done stays done when it fails. -/
abbrev Writing := ExceptT WriteFault (StateM Progress)

def Writing.change (change : Files.Change) : Writing Unit := do
  match change.apply (← get).tree with
  | .error fault => throw (.file fault)
  | .ok tree =>
      modify (fun progress =>
        { progress with tree, changes := progress.changes ++ [change] })

def Writing.locate (found : Except Files.PathFault Files.Path) : Writing Files.Path :=
  match found with
  | .ok path => return path
  | .error fault => throw (.path fault)

/-- Makes a folder; those that were made before an obstacle count as a change, too. -/
def Writing.makeFolders (path : Files.Path) : Writing Unit := do
  let fault? := (← get).tree.makingFault? path
  Writing.change (.makeFolders path)
  if let some fault := fault? then throw (.file fault)

/-- Clears the output folder. -/
def clear (folder : Files.Path) (output : OutputSettings) : Writing Unit := do
  let path ← Writing.locate (Files.validate folder output.folder)
  Writing.change (.remove path)
  Writing.makeFolders path

def writeUnit (folder : Files.Path) (output : OutputSettings)
    (stub : Generation.StubUnit) : Writing Unit := do
  let path ← Writing.locate
    (Files.resolveWithin folder output.folder (stub.space ++ output.extension))
  Writing.change (.write path stub.content)
  modify (fun progress =>
    { progress with events := progress.events ++ [.unitWritten stub.space path.text] })

def writeAll (folder : Files.Path) (output : OutputSettings)
    (units : List Generation.StubUnit) : Writing Unit := do
  clear folder output
  units.forM (writeUnit folder output)

structure Outcome where
  result : Except Failure (List Generation.StubUnit)
  events : List Event := []
  changes : List Files.Change := []

def writeUnits (place : Files.Place) (output : OutputSettings)
    (units : List Generation.StubUnit) (events : List Event) : Outcome :=
  match (writeAll place.folder output units).run.run { tree := place.tree, events } with
  | (.error fault, progress) =>
      ⟨.error (.writing fault), progress.events, progress.changes⟩
  | (.ok _, progress) => ⟨.ok units, progress.events, progress.changes⟩

/-- Generates stubs from files; with `dry` nothing is written. -/
def run (place : Files.Place) (options : Generation.Options) (files : List String)
    (dry : Bool) : Outcome :=
  match prepare place options files with
  | .error failure => { result := .error failure }
  | .ok modules =>
      let generated := Generation.generate modules options
      match generated.result with
      | .error failure => ⟨.error (.ofGeneration failure), generated.events, []⟩
      | .ok units =>
          if dry then ⟨.ok units, generated.events, []⟩
          else writeUnits place options.settings.output units generated.events

/-- Stubs kept in memory, by namespace, in the order of their first writing. -/
structure Shelf where
  stubs : List (String × String) := []
  deriving DecidableEq, Repr

namespace Shelf

def put (shelf : Shelf) (space content : String) : Shelf :=
  if shelf.stubs.any (·.1 = space) then
    ⟨shelf.stubs.map (fun stub =>
      if stub.1 = space then (space, content) else stub)⟩
  else ⟨shelf.stubs ++ [(space, content)]⟩

def get? (shelf : Shelf) (space : String) : Option String :=
  shelf.stubs.lookup space

def spaces (shelf : Shelf) : List String :=
  shelf.stubs.map (·.1)

/-- The shelf after putting all stubs on it. -/
def ofUnits (units : List Generation.StubUnit) : Shelf :=
  units.foldl (fun shelf stub => shelf.put stub.space stub.content) {}

end Shelf
end Emission
end ApiStubs
