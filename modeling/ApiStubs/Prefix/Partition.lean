import ApiStubs.Prefix.Candidate

/-!
# Partition by prefix

The candidates are taken in their order.  Each claims the members that no
earlier group has, and becomes a group if these are two or more.
-/

namespace ApiStubs
namespace Prefix

structure Group where
  start : String
  members : List String
  deriving DecidableEq, Repr

/-- The members of all groups. -/
def claimed (groups : List Group) : List String :=
  groups.flatMap (·.members)

def claim (groups : List Group) (candidate : Candidate) : List Group :=
  let taken := claimed groups
  let free := candidate.members.filter (fun name => !taken.contains name)
  if free.length < Alias.leastMembers then groups
  else groups ++ [⟨candidate.start, free⟩]

def partition (names : List String) : List Group :=
  (candidates names).foldl claim []

end Prefix
end ApiStubs
