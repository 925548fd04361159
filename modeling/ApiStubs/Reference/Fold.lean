import ApiStubs.Prefix.Tokens
import ApiStubs.Reference.Mention

/-!
# Folding constants into aliases

The constants that a type list refers to, by itself or through its description,
are replaced by aliases: by one alias of their common run if there is one, and
otherwise by the narrowest alias that each of them is in.  A list in which an
alias was put ends with a primitive fallback, which also becomes the type of the
constants that were replaced.
-/

namespace ApiStubs
namespace Reference

structure Request where
  types : List String
  description : Option String := none
  deriving DecidableEq, Repr

structure Folded where
  types : List String
  aliases : List String
  fallback : Option Primitive
  deriving DecidableEq, Repr

/-- The types as declared, without their marks. -/
def Request.declared (request : Request) : List String :=
  request.types.map dropLiteralMark

/-- The full names that a request refers to. -/
def Request.referred (request : Request) (catalog : Catalog) : List String :=
  let named := request.declared.filter (· != constantPlaceholder)
  if constantPlaceholder ∈ request.declared then
    named ++ (request.description.map (scan catalog)).getD []
  else named

/-- The constants among full names, each once, in order. -/
def recorded (catalog : Catalog) (fullNames : List String) : List QualifiedName :=
  ((fullNames.filterMap QualifiedName.ofText?).filter (fun qualified =>
    (catalog.lookup qualified.space qualified.name).isSome)).eraseDups

/-- The names recorded for each space, the spaces in the order of appearance. -/
def bySpace (names : List QualifiedName) : List (String × List String) :=
  ((names.map (·.space)).eraseDups).map (fun space =>
    (space, (names.filter (·.space = space)).map (·.name)))

/-- Full names with the aliases put in their place. -/
abbrev Substitution := List (String × String)

/-- The alias of a common run, which needs two names. -/
def runOf (names : List String) : Option String :=
  if names.length < 2 then none else Prefix.commonRun names

/-- The narrowest aliases of the names that are in one. -/
def knownAliases (ledger : Ledger) (space : String) (names : List String) :
    Substitution :=
  names.filterMap (fun name =>
    (ledger.findByMember space (qualify space name)).map (fun a =>
      (qualify space name, a.fullName)))

def foldSpace (state : Ledger × Substitution) (group : String × List String) :
    Ledger × Substitution :=
  let (ledger, substitution) := state
  let (space, names) := group
  match runOf names with
  | none => (ledger, substitution ++ knownAliases ledger space names)
  | some run =>
      match ledger.register space run (names.map (qualify space)) with
      | (ledger, true) =>
          (ledger, substitution ++
            names.map (fun name => (qualify space name, qualify space run)))
      | (ledger, false) =>
          (ledger, substitution ++ knownAliases ledger space names)

/-- A string wins over a hash, and both over an integer. -/
def fallbackOf (declared : List String) : Primitive :=
  if "string" ∈ declared then .string
  else if "hash" ∈ declared then .hash
  else .integer

def pushNew (types : List String) (type : String) : List String :=
  if type ∈ types then types else types ++ [type]

/-- The declared types with aliases in the place of the constants. -/
def rebuild (substitution : Substitution) (declared : List String) : List String :=
  (declared.filter (· != constantPlaceholder)).foldl (fun types type =>
    match substitution.lookup type with
    | none => types ++ [type]
    | some a => pushNew types a) []

def fold (registry : Registry) (request : Request) : Registry × Folded :=
  let declared := request.declared
  let names := recorded registry.catalog (request.referred registry.catalog)
  let (ledger, substitution) := (bySpace names).foldl foldSpace (registry.ledger, [])
  let produced := Alias.joinMembers [] (substitution.map (·.2))
  if produced = [] then ({ registry with ledger }, ⟨declared, [], none⟩)
  else
    let fallback := fallbackOf declared
    let types := produced.foldl pushNew (rebuild substitution declared)
    let catalog := substitution.foldl
      (fun catalog pair => catalog.setPrimitive pair.1 fallback) registry.catalog
    (⟨catalog, ledger⟩, ⟨types ++ [fallback.name], produced, some fallback⟩)

end Reference
end ApiStubs
