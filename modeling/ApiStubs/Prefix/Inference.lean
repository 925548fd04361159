import ApiStubs.Event
import ApiStubs.Prefix.Partition
import ApiStubs.Registry

/-!
# Aliases found ahead of time

The constants of every space are partitioned by prefix, and each group becomes
an alias.
-/

namespace ApiStubs
namespace Prefix

structure Inference where
  registry : Registry
  aliases : List Alias := []
  events : List Event := []
  deriving DecidableEq, Repr

/-- Registers one group of a space. -/
def Inference.addGroup (space : String) (inference : Inference) (group : Group) :
    Inference :=
  let members := group.members.map (qualify space)
  let (ledger, _) := inference.registry.ledger.register space group.start members
  let registry := { inference.registry with ledger }
  match ledger.get? space group.start with
  | none => { inference with registry }
  | some a =>
      { registry
        aliases := inference.aliases ++ [a]
        events := inference.events ++ [.aliasInferred a.fullName members.length] }

def Inference.addSpace (inference : Inference) (space : String) : Inference :=
  let names := (inference.registry.catalog.constantsOf space).map (·.name)
  (partition names).foldl (Inference.addGroup space) inference

/-- Registers the groups of all spaces, in the order of their names. -/
def infer (registry : Registry) : Inference :=
  (Text.sortByUnits registry.catalog.spaces).foldl Inference.addSpace { registry }

end Prefix
end ApiStubs
