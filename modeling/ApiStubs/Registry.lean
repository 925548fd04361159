import ApiStubs.Alias.Ledger
import ApiStubs.Constant.Catalog

/-!
# The registry of a run

What a run knows: its constants and the aliases found among them.
-/

namespace ApiStubs

structure Registry where
  catalog : Catalog := {}
  ledger : Ledger := {}
  deriving DecidableEq, Repr

end ApiStubs
