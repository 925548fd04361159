import ApiStubs.QualifiedName

/-!
# Constants

A constant is a named value of a space.  Its primitive type is an integer unless
something it is used for calls for another one.
-/

namespace ApiStubs

inductive Primitive where
  | integer
  | string
  | hash
  deriving DecidableEq, Repr

def Primitive.name : Primitive → String
  | integer => "integer"
  | string => "string"
  | hash => "hash"

structure Constant where
  space : String
  name : String
  description : String := ""
  primitive : Primitive := .integer
  deriving DecidableEq, Repr

def Constant.fullName (constant : Constant) : String :=
  qualify constant.space constant.name

/-- Stands in a type list for the constants that the description mentions. -/
def constantPlaceholder : String := "constant"

end ApiStubs
