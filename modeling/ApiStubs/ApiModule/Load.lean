import ApiStubs.ApiModule.Reader
import ApiStubs.Files.Tree
import ApiStubs.Text.Lowercase

/-!
# Loading module files

The extension of a file tells its format.  Files are loaded one after the other,
and the first fault ends the loading.
-/

namespace ApiStubs
namespace ApiModule

def formatOf (path : String) : Except Fault Format :=
  let extension := Text.lowercase (Files.Path.extension path)
  if extension = ".toml" then .ok .toml
  else if extension = ".json" then .ok .json
  else .error (.unknownExtension extension path)

/-- The text of a file, or why it cannot be read. -/
def readFile (place : Files.Place) (path : String) : Except String String :=
  match Files.validate place.folder path with
  | .error fault => .error fault.message
  | .ok resolved =>
      match place.tree.read resolved with
      | .error fault => .error fault.message
      | .ok content => .ok content

def loadFile (place : Files.Place) (path : String) : Except Fault (List ApiModule) := do
  let format ← formatOf path
  match readFile place path with
  | .error reason => throw (.unreadable path reason)
  | .ok content =>
      match parse format content with
      | .error fault => throw (.inFile path fault)
      | .ok modules => return modules

/-- The modules of all files, in order. -/
def load (place : Files.Place) : List String → Except Fault (List ApiModule)
  | [] => .ok []
  | path :: rest => do
      let modules ← loadFile place path
      return modules ++ (← load place rest)

end ApiModule
end ApiStubs
