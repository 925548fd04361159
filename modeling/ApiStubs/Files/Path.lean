import ApiStubs.Text.Search

/-!
# Paths

An absolute path is a list of components from the root.  A text is resolved from
a folder: empty components and single dots are dropped, and two dots go up, but
not beyond the root.
-/

namespace ApiStubs
namespace Files

abbrev Path := List String

namespace Path

def text (path : Path) : String :=
  "/" ++ Text.joinWith "/" path

/-- Goes on by one component. -/
def enter (path : Path) (component : String) : Path :=
  if component = "" ∨ component = "." then path
  else if component = ".." then path.dropLast
  else path ++ [component]

/-- The path that a text denotes for someone in a folder. -/
def resolve (folder : Path) (text : String) : Path :=
  (Text.split '/' text).foldl enter (if Text.startsWith text "/" then [] else folder)

/-- The way from one path to another. -/
def relative : Path → Path → List String
  | a :: as, b :: bs =>
      if a = b then relative as bs
      else (a :: as).map (fun _ => "..") ++ b :: bs
  | as, bs => as.map (fun _ => "..") ++ bs

def relativeText (origin target : Path) : String :=
  Text.joinWith "/" (relative origin target)

/-- The last component of a text, without slashes behind it. -/
def baseName (text : String) : List Char :=
  ((text.toList.reverse.dropWhile (· = '/')).takeWhile (· != '/')).reverse

/-- From the last dot on, unless the name starts with it or is two dots. -/
def extension (text : String) : String :=
  let name := baseName text
  let before := (name.reverse.dropWhile (· != '.')).drop 1
  if before.isEmpty || name = ['.', '.'] then ""
  else String.ofList (name.drop before.length)

end Path

/-- What is wrong with the text of a path. -/
inductive PathFault where
  | empty (path : String)
  | nullCharacter (path : String)
  | escapes (root path : String)
  deriving DecidableEq, Repr

namespace PathFault

def message : PathFault → String
  | empty _ => "Path cannot be empty"
  | nullCharacter _ => "Path cannot contain null bytes"
  | escapes root _ => "Path escapes output directory '" ++ root ++ "'"

def path : PathFault → String
  | empty path => path
  | nullCharacter path => path
  | escapes _ path => path

end PathFault

def holdsNull (text : String) : Bool :=
  text.toList.any (·.toNat = 0)

/-- The path of a text that is neither empty nor holds a null character. -/
def validate (folder : Path) (text : String) : Except PathFault Path :=
  if text = "" then .error (.empty text)
  else if holdsNull text then .error (.nullCharacter text)
  else .ok (Path.resolve folder text)

/-- The path of a text inside a root, which may not be left. -/
def resolveWithin (folder : Path) (root text : String) : Except PathFault Path := do
  let resolvedRoot ← validate folder root
  let resolved ← validate folder (Path.resolve resolvedRoot text).text
  let way := Path.relativeText resolvedRoot resolved
  if way = "" || Text.startsWith way ".." || Text.startsWith way "/" then
    throw (.escapes root text)
  return resolved

/-- A way that leads out of its origin. -/
def leadsOut (way : String) : Bool :=
  way = ".." || Text.startsWith way "../"

/-- The target is the folder itself or lies below it. -/
def contains (folder : Path) (directory target : String) : Except PathFault Bool := do
  let origin ← validate folder directory
  let resolved ← validate folder target
  let way := Path.relativeText origin resolved
  return !leadsOut way && !Text.startsWith way "/"

end Files
end ApiStubs
