import ApiStubs.Proofs.Reference.Replacement

/-!
# Folding a request again

A request finds the same names before and after it has been folded, makes the same
registrations, and replaces the same constants, since what it replaces is read off the
ledger that its registrations leave as it is.
-/

namespace ApiStubs
namespace Reference

theorem resolve_repeated (registry : Registry) (request : Request) :
    resolve (fold registry request).1 request = resolve registry request := by
  have hnames := namesOf_fold registry request
  have hledger : (resolve (fold registry request).1 request).1 =
      (resolve registry request).1 := by
    rw [resolve_ledger, registrationsOf_congr hnames, fold_registry, resolve_ledger]
    exact Ledger.foldl_enter_repeated (fun a ha => many_of_mem_registrationsOf ha) registry.ledger
  apply Prod.ext hledger
  rw [resolve_substitution, resolve_substitution, groupsOf_congr hnames, hledger]

/-- Folding a request a second time gives the same types and leaves the registry as the
first time has left it. -/
theorem fold_repeated (registry : Registry) (request : Request) :
    fold (fold registry request).1 request = fold registry request := by
  have hregistry : (fold (fold registry request).1 request).1 = (fold registry request).1 := by
    rw [fold_registry (fold registry request).1, resolve_repeated, fold_registry,
      retypeAll_repeated]
  apply Prod.ext hregistry
  rw [fold_eq (fold registry request).1, resolve_repeated, fold_eq registry]
  split <;> rfl

end Reference
end ApiStubs
