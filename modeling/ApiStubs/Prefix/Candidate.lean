import ApiStubs.Alias
import ApiStubs.Prefix.Tokens
import ApiStubs.Text.Units

/-!
# Shared beginnings

A name begins with a prefix if the prefix is made of its first tokens, but not
of all of them, and an underscore follows it in the name.  A candidate is a
prefix that two names share.
-/

namespace ApiStubs
namespace Prefix

def ofLength (name : String) (length : Nat) : String :=
  joinTokens ((tokens name).take length)

/-- The prefixes of a name, the shortest first. -/
def prefixesOf (name : String) : List String :=
  ((List.range ((tokens name).length - 1)).map (fun n => ofLength name (n + 1))).filter
    (fun start => Text.startsWith name (start ++ "_"))

structure Candidate where
  start : String
  members : List String
  deriving DecidableEq, Repr

def Candidate.tokenCount (candidate : Candidate) : Nat :=
  (tokens candidate.start).length

/-- More tokens come first; among equals the order is that of the prefixes. -/
def Candidate.listedBefore (a b : Candidate) : Bool :=
  b.tokenCount < a.tokenCount ||
    (a.tokenCount = b.tokenCount && Text.unitsLE a.start b.start)

/-- The prefixes of all names, each with the name it is of. -/
def occurrences (names : List String) : List (String × String) :=
  names.flatMap (fun name => (prefixesOf name).map (fun start => (start, name)))

/-- The names among the occurrences of a prefix, each once. -/
def membersIn (found : List (String × String)) (start : String) : List String :=
  Alias.joinMembers [] ((found.filter (·.1 = start)).map (·.2))

def candidates (names : List String) : List Candidate :=
  let found := occurrences names
  let all := ((found.map (·.1)).eraseDups).map
    (fun start => Candidate.mk start (membersIn found start))
  (all.filter (fun candidate => Alias.leastMembers ≤ candidate.members.length)).mergeSort
    Candidate.listedBefore

end Prefix
end ApiStubs
