import ApiStubs.Text.Search

/-!
# Tokens of a name

The tokens of a name are the non-empty pieces between its underscores.  The
common run of names is the longest list of tokens that all of them begin with.
-/

namespace ApiStubs
namespace Prefix

def tokens (name : String) : List String :=
  (Text.split '_' name).filter (· != "")

def joinTokens (parts : List String) : String :=
  Text.joinWith "_" parts

def commonStart : List String → List String → List String
  | a :: as, b :: bs => if a = b then a :: commonStart as bs else []
  | _, _ => []

/-- The tokens that all names begin with; there are none if there are no names. -/
def commonTokens : List String → List String
  | [] => []
  | name :: names =>
      names.foldl (fun run other => commonStart run (tokens other)) (tokens name)

def commonRun (names : List String) : Option String :=
  match commonTokens names with
  | [] => none
  | run => some (joinTokens run)

end Prefix
end ApiStubs
