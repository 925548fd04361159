import ApiStubs.Alias
import ApiStubs.Text.Units

/-!
# The ledger of aliases

The aliases in the order of their registration.  Registering a known alias adds
to its members; a new alias needs two different members.  Lookups by member
prefer the alias with the fewest members, and among these the first by name.
-/

namespace ApiStubs

structure Ledger where
  aliases : List Alias := []
  deriving DecidableEq, Repr

namespace Ledger

def get? (ledger : Ledger) (space name : String) : Option Alias :=
  ledger.aliases.find? (fun a => a.space = space ∧ a.name = name)

def has (ledger : Ledger) (space name : String) : Bool :=
  (ledger.get? space name).isSome

def hasFull (ledger : Ledger) (fullName : String) : Bool :=
  match QualifiedName.ofText? fullName with
  | none => false
  | some qualified => ledger.has qualified.space qualified.name

def addMembers (ledger : Ledger) (space name : String) (members : List String) :
    Ledger :=
  ⟨ledger.aliases.map (fun a =>
    if a.space = space ∧ a.name = name then
      { a with members := Alias.joinMembers a.members members }
    else a)⟩

/-- The ledger after a registration, and whether it holds the alias. -/
def register (ledger : Ledger) (space name : String) (members : List String) :
    Ledger × Bool :=
  if ledger.has space name then (ledger.addMembers space name members, true)
  else
    let unique := Alias.joinMembers [] members
    if unique.length < Alias.leastMembers then (ledger, false)
    else (⟨ledger.aliases ++ [⟨space, name, unique⟩]⟩, true)

/-- The aliases of a space, ordered by name. -/
def aliasesOf (ledger : Ledger) (space : String) : List Alias :=
  (ledger.aliases.filter (·.space = space)).mergeSort
    (fun a b => Text.unitsLE a.name b.name)

/-- The one with fewer members; the first of two with the same number. -/
def narrower (best? : Option Alias) (a : Alias) : Option Alias :=
  match best? with
  | none => some a
  | some best => if a.members.length < best.members.length then some a else some best

def findByMember (ledger : Ledger) (space fullName : String) : Option Alias :=
  ((ledger.aliasesOf space).filter (fullName ∈ ·.members)).foldl narrower none

def spaces (ledger : Ledger) : List String :=
  Text.sortByUnits (ledger.aliases.map (·.space)).eraseDups

def listing (ledger : Ledger) : List Alias :=
  ledger.spaces.flatMap ledger.aliasesOf

end Ledger
end ApiStubs
