import ApiStubs.Cli.Command
import ApiStubs.Log.Text

/-!
# The program

The program takes a picture of the files that a command line names, runs the
command on this picture, prints what it answers and makes its changes.
-/

namespace ApiStubs
namespace Program

/-- The paths that a walk along a text comes through. -/
def stations (folder : Files.Path) (text : String) : List Files.Path :=
  let components := Text.split '/' text
  let origin := if Text.startsWith text "/" then [] else folder
  (List.range components.length).map (fun n =>
    (components.take (n + 1)).foldl Files.Path.enter origin)

def readNode (path : String) : IO (Option Files.Node) := do
  try
    if ← (← IO.FS.realPath path).isDir then return some .folder
    return some (.file (← IO.FS.readFile path))
  catch _ => return none

/-- The part of the file system that the texts lead to. -/
def takePicture (folder : Files.Path) (texts : List String) : IO Files.Tree := do
  let mut tree := ({} : Files.Tree).makeFolders folder
  for text in Cli.defaultConfigFile :: texts do
    for path in stations folder text ++ [Files.Path.resolve folder text] do
      if (tree.node? path).isNone then
        if let some node ← readNode path.text then
          tree := tree.put path node
  return tree

def makeChange : Files.Change → IO Unit
  | .remove path => do
      try
        if ← (← IO.FS.realPath path.text).isDir then IO.FS.removeDirAll path.text
        else IO.FS.removeFile path.text
      catch
        | .noFileOrDirectory .. => return
        | error => throw error
  | .makeFolders path => IO.FS.createDirAll path.text
  | .write path content => IO.FS.writeFile path.text content

def printLine : Cli.Line → IO Unit
  | .out text => IO.println text
  | .err text => IO.eprintln text

def variableNames : List String :=
  "NO_COLOR" :: Settings.Variable.all.map Settings.Variable.name

def readEnvironment : IO Settings.Environment :=
  variableNames.filterMapM (fun name => do
    return (← IO.getEnv name).map (fun value => (name, value)))

/-- Makes the changes of an answer; the answer is another one if they fail. -/
def settleChanges (colors : Bool) (answer : Cli.Answer) : IO Cli.Answer := do
  try
    answer.changes.forM makeChange
    return answer
  catch error =>
    -- An answer that foresaw the failure says more about it.
    if answer.exitCode ≠ 0 then return answer
    return { Cli.failed colors (some .writing)
        ("Failed to write annotations: " ++ toString error) with
      entries := answer.entries }

end Program
end ApiStubs

open ApiStubs in
def main (arguments : List String) : IO UInt32 := do
  let folder := Files.Path.resolve [] (← IO.currentDir).toString
  let environment ← Program.readEnvironment
  let tree ← Program.takePicture folder arguments
  let context := Cli.Context.make none arguments environment
  let answer ← Program.settleChanges context.colors
    (Cli.run ⟨folder, tree⟩ arguments environment)
  answer.entries.forM (fun entry => IO.eprintln entry.render)
  answer.console.forM Program.printLine
  return answer.exitCode.toUInt32
