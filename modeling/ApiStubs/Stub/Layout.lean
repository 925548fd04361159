import ApiStubs.ApiModule
import ApiStubs.Text.Blank
import ApiStubs.Text.Units

/-!
# The layout of a stub

Elements are ordered by kind and name.  The body holds the aliases and then the
declarations; the class of a namespace stands around it.
-/

namespace ApiStubs
namespace Stub

/-- Variables come first, then functions and constants, classes and aliases. -/
def rank : ElementKind → Nat
  | .variable => 0
  | .function => 1
  | .constant => 1
  | .classType => 2
  | .alias => 3

/-- Elements that cannot be rendered come last. -/
def elementRank (element : Element) : Nat :=
  (element.kind?.map rank).getD 4

def elementLE (a b : Element) : Bool :=
  elementRank a < elementRank b ||
    (elementRank a = elementRank b && Text.unitsLE a.name b.name)

def sortElements (elements : List Element) : List Element :=
  elements.mergeSort elementLE

structure Declaration where
  kind : ElementKind
  text : String
  deriving DecidableEq, Repr

/-- An alias is followed by the next declaration at once, all else by an empty line. -/
def joinDeclarations : List Declaration → String
  | [] => ""
  | [last] => last.text
  | declaration :: rest =>
      declaration.text ++ (if declaration.kind = .alias then "\n" else "\n\n") ++
        joinDeclarations rest

def body (aliases : String) (declarations : List Declaration) : String :=
  let declared := joinDeclarations declarations
  Text.trimEnd
    (if aliases = "" then declared
     else if declared = "" then aliases
     else aliases ++ "\n\n" ++ declared)

/-- The class of a namespace around its body. -/
def namespaceText (classPrefix space fields body : String) : String :=
  "---@class " ++ classPrefix ++ "." ++ space ++ "\n" ++ fields ++
    space ++ " = {}\n\n" ++ body ++ "\n\nreturn " ++ space

end Stub
end ApiStubs
