import ApiStubs.Constant

/-!
# The catalog of constants

The constants in the order of their registration.  The first registration of a
name wins.  A listing goes through the spaces in the order in which they first
appear, and through the constants of each space in their own order.
-/

namespace ApiStubs

structure Catalog where
  constants : List Constant := []
  deriving DecidableEq, Repr

namespace Catalog

def lookup (catalog : Catalog) (space name : String) : Option Constant :=
  catalog.constants.find? (fun constant =>
    constant.space = space ∧ constant.name = name)

/-- The constant of the name, and the catalog that holds it. -/
def register (catalog : Catalog) (space name description : String) :
    Catalog × Constant :=
  match catalog.lookup space name with
  | some constant => (catalog, constant)
  | none =>
      let constant : Constant := { space, name, description }
      (⟨catalog.constants ++ [constant]⟩, constant)

/-- Registers a full name; a name without a space is left out. -/
def registerFull (catalog : Catalog) (fullName description : String) :
    Catalog × Option Constant :=
  match QualifiedName.ofText? fullName with
  | none => (catalog, none)
  | some qualified =>
      let (catalog, constant) :=
        catalog.register qualified.space qualified.name description
      (catalog, some constant)

def lookupFull (catalog : Catalog) (fullName : String) : Option Constant :=
  (QualifiedName.ofText? fullName).bind
    (fun qualified => catalog.lookup qualified.space qualified.name)

/-- Gives a constant a primitive type unless it has one other than the default. -/
def setPrimitive (catalog : Catalog) (fullName : String) (primitive : Primitive) :
    Catalog :=
  match QualifiedName.ofText? fullName with
  | none => catalog
  | some qualified =>
      ⟨catalog.constants.map (fun constant =>
        if constant.space = qualified.space ∧ constant.name = qualified.name ∧
            constant.primitive = .integer then
          { constant with primitive }
        else constant)⟩

/-- The spaces in the order of their first constants. -/
def spaces (catalog : Catalog) : List String :=
  (catalog.constants.map (·.space)).eraseDups

def constantsOf (catalog : Catalog) (space : String) : List Constant :=
  catalog.constants.filter (·.space = space)

def size (catalog : Catalog) : Nat :=
  catalog.constants.length

def listing (catalog : Catalog) : List Constant :=
  catalog.spaces.flatMap catalog.constantsOf

end Catalog
end ApiStubs
