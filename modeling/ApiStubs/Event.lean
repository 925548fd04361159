import ApiStubs.Log

/-!
# Events of a run

What a run reports while it goes on, in the order of happening.
-/

namespace ApiStubs

inductive Event where
  | generationStarted (modules : Nat) (version : String) (strict : Bool)
  | aliasInferred (fullName : String) (members : Nat)
  | unknownType (type element parameter sentinel : String)
  | moduleSkipped (space : String)
  | generationCompleted (units constants aliases : Nat)
  | unitWritten (space path : String)
  deriving DecidableEq, Repr

def Event.message : Event → Log.Message
  | generationStarted modules version strict =>
      ⟨.info, "generation_started", some (.fields [
        ("modules", .count modules), ("version", .text version),
        ("strict", .boolean strict)])⟩
  | aliasInferred fullName members =>
      ⟨.debug, "alias_inferred", some (.fields [
        ("alias", .text fullName), ("members", .count members)])⟩
  | unknownType type element parameter sentinel =>
      ⟨.warn, "unknown_type", some (.fields [
        ("type", .text type), ("element", .text element),
        ("parameter", .text parameter), ("replacement", .text sentinel)])⟩
  | moduleSkipped space =>
      ⟨.info, "module_skipped", some (.fields [
        ("namespace", .text space), ("reason", .text "no_renderable_elements")])⟩
  | generationCompleted units constants aliases =>
      ⟨.info, "generation_completed", some (.fields [
        ("namespaces", .count units), ("constants", .count constants),
        ("aliases", .count aliases)])⟩
  | unitWritten space path =>
      ⟨.info, "namespace_written", some (.fields [
        ("namespace", .text space), ("path", .text path)])⟩

end ApiStubs
