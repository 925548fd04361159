import ApiStubs.Files.Path

/-!
# File trees

A tree says which paths are files, with their texts, and which are folders.  The
root is always a folder.  A path is walked component by component, and the first
obstacle on the way is what an operation fails with.
-/

namespace ApiStubs
namespace Files

inductive Node where
  | file (content : String)
  | folder
  deriving DecidableEq, Repr

inductive Obstacle where
  | missing
  | notFolder
  | isFolder
  | inPlace
  | nameTooLong
  deriving DecidableEq, Repr

def Obstacle.text : Obstacle → String
  | missing => "ENOENT: no such file or directory"
  | notFolder => "ENOTDIR: not a directory"
  | isFolder => "EISDIR: illegal operation on a directory"
  | inPlace => "EEXIST: file already exists"
  | nameTooLong => "ENAMETOOLONG: name too long"

/-- A failed operation; reading a folder fails after it was opened. -/
inductive FileFault where
  | opening (obstacle : Obstacle) (path : String)
  | reading
  | removing (obstacle : Obstacle) (path : String)
  | making (obstacle : Obstacle) (path : String)
  deriving DecidableEq, Repr

def FileFault.message : FileFault → String
  | opening obstacle path => obstacle.text ++ ", open '" ++ path ++ "'"
  | reading => Obstacle.isFolder.text ++ ", read"
  | removing obstacle path => obstacle.text ++ ", lstat '" ++ path ++ "'"
  | making obstacle path => obstacle.text ++ ", mkdir '" ++ path ++ "'"

/-- The longest name of a file, in bytes. -/
def longestName : Nat := 255

/-- The longest text of a path, in bytes. -/
def longestPath : Nat := 4095

structure Tree where
  nodes : List (Path × Node) := []
  deriving DecidableEq, Repr

namespace Tree

def node? (tree : Tree) (path : Path) : Option Node :=
  if path = [] then some .folder else tree.nodes.lookup path

def put (tree : Tree) (path : Path) (node : Node) : Tree :=
  ⟨tree.nodes.filter (·.1 != path) ++ [(path, node)]⟩

/-- Steps from a node into one of its components. -/
def step (tree : Tree) (place : Path × Node) (component : String) :
    Except Obstacle (Path × Node) :=
  match place.2 with
  | .file _ => .error .notFolder
  | .folder =>
      let path := Path.enter place.1 component
      if longestName < component.utf8ByteSize then .error .nameTooLong
      else
        match tree.node? path with
        | none => .error .missing
        | some node => .ok (path, node)

/-- Walks components one after the other. -/
def walk (tree : Tree) : Path × Node → List String → Except Obstacle (Path × Node)
  | place, [] => .ok place
  | place, component :: rest => do
      tree.walk (← tree.step place component) rest

/-- What stands at a resolved path. -/
def find (tree : Tree) (path : Path) : Except Obstacle Node :=
  if longestPath < path.text.utf8ByteSize then .error .nameTooLong
  else (·.2) <$> tree.walk ([], .folder) path

/--
What a text leads to for someone in a folder.  Every component has to be there,
also one that two dots leave again.
-/
def follow (tree : Tree) (folder : Path) (text : String) : Except Obstacle Node :=
  if text = "" || holdsNull text then .error .missing
  else if longestPath < text.utf8ByteSize then .error .nameTooLong
  else
    (·.2) <$> tree.walk (if Text.startsWith text "/" then [] else folder, .folder)
      (Text.split '/' text)

def contentOf (path : String) : Except Obstacle Node → Except FileFault String
  | .ok (.file content) => .ok content
  | .ok .folder => .error .reading
  | .error obstacle => .error (.opening obstacle path)

def read (tree : Tree) (path : Path) : Except FileFault String :=
  contentOf path.text (tree.find path)

/-- Removes a path with all that lies below it; a missing path is no fault. -/
def remove (tree : Tree) (path : Path) : Except FileFault Tree :=
  match tree.find path with
  | .error .missing => .ok tree
  | .error obstacle => .error (.removing obstacle path.text)
  | .ok _ => .ok ⟨tree.nodes.filter (fun entry => !path.isPrefixOf entry.1)⟩

/--
Walks components and makes folders of those that are missing.  What was made before an
obstacle stays.
-/
def makeAlong (tree : Tree) : Path × Node → List String → Tree × Option FileFault
  | (_, .folder), [] => (tree, none)
  | (path, .file _), [] => (tree, some (.making .inPlace path.text))
  | place, component :: rest =>
      match tree.step place component with
      | .ok next => tree.makeAlong next rest
      | .error .missing =>
          let path := Path.enter place.1 component
          (tree.put path .folder).makeAlong (path, .folder) rest
      | .error obstacle =>
          (tree, some (.making obstacle (Path.enter place.1 component).text))

/--
Makes a path and the folders on the way to it.  An obstacle that is there already is one of
the whole path; one behind a missing folder is met when the folders before it are made.
-/
def tryFolders (tree : Tree) (path : Path) : Tree × Option FileFault :=
  match tree.find path with
  | .ok .folder => (tree, none)
  | .ok (.file _) => (tree, some (.making .inPlace path.text))
  | .error .missing => tree.makeAlong ([], .folder) path
  | .error obstacle => (tree, some (.making obstacle path.text))

/-- The tree with the folders that could be made. -/
def makeFolders (tree : Tree) (path : Path) : Tree :=
  (tree.tryFolders path).1

def makingFault? (tree : Tree) (path : Path) : Option FileFault :=
  (tree.tryFolders path).2

/-- Writes a file into a folder that is there. -/
def write (tree : Tree) (path : Path) (content : String) : Except FileFault Tree :=
  match tree.find path, tree.find path.dropLast with
  | .ok .folder, _ => .error (.opening .isFolder path.text)
  | .ok (.file _), _ => .ok (tree.put path (.file content))
  | .error .missing, .ok _ => .ok (tree.put path (.file content))
  | .error obstacle, _ => .error (.opening obstacle path.text)

/-- Puts a file and the folders it stands in. -/
def addFile (tree : Tree) (path : Path) (content : String) : Tree :=
  (tree.makeFolders path.dropLast).put path (.file content)

/-- The files with their texts. -/
def files (tree : Tree) : List (Path × String) :=
  tree.nodes.filterMap (fun entry =>
    match entry.2 with
    | .file content => some (entry.1, content)
    | .folder => none)

end Tree

/-- A folder to work in and the tree around it. -/
structure Place where
  folder : Path
  tree : Tree
  deriving DecidableEq, Repr

/-- What a run does to a tree. -/
inductive Change where
  | remove (path : Path)
  | makeFolders (path : Path)
  | write (path : Path) (content : String)
  deriving DecidableEq, Repr

def Change.apply (tree : Tree) : Change → Except FileFault Tree
  | remove path => tree.remove path
  | makeFolders path => .ok (tree.makeFolders path)
  | write path content => tree.write path content

end Files
end ApiStubs
