import ApiStubs.Text.Search

/-!
# Qualified names

A qualified name is a space and a short name with a dot between them.  A text is
cut at its last dot, so the short name has none, and both parts must have
characters.
-/

namespace ApiStubs

structure QualifiedName where
  space : String
  name : String
  deriving DecidableEq, Repr

namespace QualifiedName

def text (qualified : QualifiedName) : String :=
  qualified.space ++ "." ++ qualified.name

/-- What stands before and after the last dot. -/
def cutAtLastDot? : List Char → Option (List Char × List Char)
  | [] => none
  | c :: cs =>
      match cutAtLastDot? cs with
      | some (before, after) => some (c :: before, after)
      | none => if c = '.' then some ([], cs) else none

def ofText? (text : String) : Option QualifiedName :=
  match cutAtLastDot? text.toList with
  | none => none
  | some (before, after) =>
      if before = [] ∨ after = [] then none
      else some ⟨String.ofList before, String.ofList after⟩

end QualifiedName

def qualify (space name : String) : String :=
  QualifiedName.text ⟨space, name⟩

/-- The mark of a type that is written as it stands. -/
def literalMark : String := "type:"

/-- The type without one leading mark. -/
def dropLiteralMark (type : String) : String :=
  (Text.dropStart? literalMark type).getD type

end ApiStubs
