import ApiStubs.QualifiedName

/-!
# Aliases

An alias names a union of constants of one space.  Its members are full names,
each once, in the order of their registration.
-/

namespace ApiStubs

structure Alias where
  space : String
  name : String
  members : List String
  deriving DecidableEq, Repr

namespace Alias

def fullName (a : Alias) : String :=
  qualify a.space a.name

/-- The members followed by those of the new ones that are not among them. -/
def joinMembers (members new : List String) : List String :=
  new.foldl (fun members member =>
    if member ∈ members then members else members ++ [member]) members

/-- The fewest members of an alias. -/
def leastMembers : Nat := 2

end Alias
end ApiStubs
