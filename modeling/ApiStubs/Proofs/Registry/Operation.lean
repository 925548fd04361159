import ApiStubs.Proofs.Prefix.Inference
import ApiStubs.Proofs.Rendering.Requests

/-!
# Aliases after any sequence of operations

Aliases come from two sides, inference over whole spaces and folding of single
type lists, and both write into one ledger.  Each operation keeps the registry
well-formed, so the order in which they follow each other does not matter.
-/

namespace ApiStubs

/-- What can be done in a session; a rendering may fail and is done all the same. -/
inductive Operation where
  | registerConstant (fullName description : String)
  | setPrimitive (fullName : String) (primitive : Primitive)
  | infer
  | fold (request : Reference.Request)
  | renderTypes (rules : TypeRules) (position : Position) (request : Reference.Request)
  | renderFunction (rules : Stub.Rules) (name : String) (description : Option String)
      (parameters returns : List Parameter)

namespace Operation

def perform : Operation → Session → Session
  | registerConstant fullName description, session =>
      { session with registry :=
          { session.registry with
            catalog := (session.registry.catalog.registerFull fullName description).1 } }
  | setPrimitive fullName primitive, session =>
      { session with registry :=
          { session.registry with
            catalog := session.registry.catalog.setPrimitive fullName primitive } }
  | infer, session =>
      let inference := Prefix.infer session.registry
      ⟨inference.registry, session.events ++ inference.events⟩
  | fold request, session =>
      { session with registry := (Reference.fold session.registry request).1 }
  | renderTypes rules position request, session =>
      ((rules.renderTypes position request).outcome session).2
  | renderFunction rules name description parameters returns, session =>
      ((rules.renderFunction name description parameters returns).outcome session).2

/-- The session that operations lead to, from the start. -/
def performAll (operations : List Operation) : Session :=
  operations.foldl (fun session operation => operation.perform session) {}

theorem wellFormed_perform (operation : Operation) {session : Session}
    (hwell : session.registry.WellFormed) :
    (operation.perform session).registry.WellFormed := by
  cases operation with
  | registerConstant fullName description => exact hwell.registerFull fullName description
  | setPrimitive fullName primitive => exact hwell.setPrimitive fullName primitive
  | infer => exact Prefix.wellFormed_infer hwell
  | fold request => exact Reference.wellFormed_fold hwell request
  | renderTypes rules position request =>
      rw [perform]
      exact (rules.serves_renderTypes position request).wellFormed hwell
  | renderFunction rules name description parameters returns =>
      rw [perform]
      exact (Stub.serves_renderFunction rules name description parameters
        returns).wellFormed hwell

theorem wellFormed_performAll (operations : List Operation) :
    (performAll operations).registry.WellFormed :=
  List.foldlRecOn (motive := fun session : Session => session.registry.WellFormed) operations _
    Registry.wellFormed_empty (fun _ hstep operation _ => operation.wellFormed_perform hstep)

/-- Whatever the operations and their order, every alias unites two or more
different constants of its space, its name is a run of tokens that all of them
begin with, and exactly the full names of the aliases are found as such. -/
theorem aliases_wellFormed_performAll (operations : List Operation) :
    let registry := (performAll operations).registry
    (∀ a ∈ registry.ledger.aliases,
      registry.ledger.get? a.space a.name = some a ∧
      2 ≤ a.members.length ∧ a.members.Nodup ∧
      (∀ member ∈ a.members, ∃ short, member = qualify a.space short ∧
        (registry.catalog.lookup a.space short).isSome = true) ∧
      Prefix.tokens a.name ≠ [] ∧
      Prefix.joinTokens (Prefix.tokens a.name) = a.name ∧
      ∀ short, qualify a.space short ∈ a.members →
        Prefix.tokens a.name <+: Prefix.tokens short) ∧
    ∀ text, registry.ledger.hasFull text = true ↔
      ∃ a ∈ registry.ledger.aliases, a.fullName = text := by
  intro registry
  have hwell : registry.WellFormed := wellFormed_performAll operations
  refine ⟨?_, fun text => hwell.hasFull_iff⟩
  intro a ha
  have hsound := hwell.sound a ha
  obtain ⟨_, -, -, hbegins⟩ := hsound.exists_member
  refine ⟨(Ledger.get?_eq_some_iff hwell.distinct).mpr ⟨ha, rfl, rfl⟩, hsound.enough,
    hsound.nodup, ?_, hbegins.ne_nil, hbegins.joined, ?_⟩
  · intro member hmember
    obtain ⟨short, hname, hregistered, -⟩ := hsound.covers member hmember
    exact ⟨short, hname, Catalog.isSome_lookup_iff.mpr hregistered⟩
  · intro short hmember
    obtain ⟨other, hname, -, hother⟩ := hsound.covers _ hmember
    rw [qualify_right_injective hname]
    exact hother.isPrefix

end Operation
end ApiStubs
