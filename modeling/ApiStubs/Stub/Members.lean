import ApiStubs.Registry
import ApiStubs.Stub.Comment

/-!
# Fields and aliases of a namespace

The constants of a namespace are the fields of its class, and its aliases are
blocks of their own.
-/

namespace ApiStubs
namespace Stub

structure Field where
  name : String
  type : String
  description : String
  deriving DecidableEq, Repr

/-- An alias with its members in the order in which they are written. -/
structure AliasBlock where
  name : String
  members : List String
  deriving DecidableEq, Repr

def Field.lines (field : Field) : List String :=
  (if field.description = "" then [] else [comment commentMark field.description]) ++
    ["---@field " ++ field.name ++ " " ++ field.type]

def AliasBlock.text (block : AliasBlock) : String :=
  Text.joinWith "\n"
    (("---@alias " ++ block.name) ::
      block.members.map (fun member => "---| `" ++ member ++ "`"))

/-- The field lines, with a line end behind the last one. -/
def fieldsText (fields : List Field) : String :=
  let text := Text.joinWith "\n" (fields.flatMap Field.lines)
  if text = "" then "" else text ++ "\n"

def aliasesText (blocks : List AliasBlock) : String :=
  Text.joinWith "\n\n" (blocks.map AliasBlock.text)

/-- The constants of a space, in the order of their registration. -/
def fieldsOf (registry : Registry) (space : String) : List Field :=
  (registry.catalog.constantsOf space).map (fun constant =>
    ⟨constant.name, constant.primitive.name, constant.description⟩)

/-- The aliases of a space by name, with their members in order. -/
def aliasBlocksOf (registry : Registry) (space : String) : List AliasBlock :=
  (registry.ledger.aliasesOf space).map (fun a =>
    ⟨a.fullName, Text.sortByUnits a.members⟩)

end Stub
end ApiStubs
