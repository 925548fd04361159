import ApiStubs.Signature

/-!
# Running a rendering

One equation for each way to build a rendering, so that later proofs do not
open the monad: a failed step ends the run, and the session it has reached is
kept.
-/

namespace ApiStubs
namespace Rendering

variable {α β : Type}

/-- The result of a rendering and the session it ends in. -/
def outcome (rendering : Rendering α) (session : Session) :
    Except UnknownType α × Session :=
  rendering.run.run session

@[simp]
theorem outcome_pure (a : α) (session : Session) :
    outcome (pure a) session = (.ok a, session) := rfl

@[simp]
theorem outcome_throw (unknown : UnknownType) (session : Session) :
    outcome (throw unknown : Rendering α) session = (.error unknown, session) := rfl

@[simp]
theorem outcome_get (session : Session) :
    outcome get session = (.ok session, session) := rfl

@[simp]
theorem outcome_report (event : Event) (session : Session) :
    outcome (report event) session =
      (.ok (), { session with events := session.events ++ [event] }) := rfl

theorem outcome_bind (first : Rendering α) (next : α → Rendering β) (session : Session) :
    outcome (first >>= next) session =
      match outcome first session with
      | (.ok a, reached) => outcome (next a) reached
      | (.error unknown, reached) => (.error unknown, reached) := by
  change (ExceptT.bindCont next (outcome first session).1).run
    (outcome first session).2 = _
  cases outcome first session with
  | mk result reached => cases result <;> rfl

theorem outcome_map (f : α → β) (rendering : Rendering α) (session : Session) :
    outcome (f <$> rendering) session =
      ((outcome rendering session).1.map f, (outcome rendering session).2) := by
  rw [map_eq_pure_bind, outcome_bind]
  cases outcome rendering session with
  | mk result reached => cases result <;> rfl

theorem outcome_modifyGet (step : Session → α × Session) (session : Session) :
    outcome (modifyGet step) session = (.ok (step session).1, (step session).2) := rfl

@[simp]
theorem outcome_foldRequest (request : Reference.Request) (session : Session) :
    outcome (TypeRules.foldRequest request) session =
      (.ok (Reference.fold session.registry request).2,
        { session with registry := (Reference.fold session.registry request).1 }) := by
  rw [TypeRules.foldRequest, outcome_modifyGet]

/-- A known type is rendered; an unknown one is reported, and ends a strict run. -/
theorem outcome_renderToken (rules : TypeRules) (position : Position) (token : String)
    (session : Session) :
    outcome (rules.renderToken position token) session =
      match rules.judge session.registry.ledger position (dropLiteralMark token) with
      | some rendered => (.ok rendered, session)
      | none =>
          (if rules.strict then .error ⟨dropLiteralMark token, position.element⟩
            else .ok rules.sentinel,
            { session with
              events := session.events ++ [.unknownType (dropLiteralMark token)
                position.element position.parameter rules.sentinel] }) := by
  rw [TypeRules.renderToken, outcome_bind, outcome_get]
  simp only
  cases rules.judge session.registry.ledger position (dropLiteralMark token) with
  | some rendered => rfl
  | none =>
      simp only [outcome_bind, outcome_report]
      cases hstrict : rules.strict <;> rfl

end Rendering
end ApiStubs
