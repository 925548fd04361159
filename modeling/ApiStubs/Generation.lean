import ApiStubs.Prefix.Inference
import ApiStubs.Stub.Declaration
import ApiStubs.Stub.Header
import ApiStubs.Stub.Members

/-!
# Generating stubs

A run merges the modules, registers all constants, finds aliases ahead of time,
renders every namespace and composes the stubs last, so that each of them shows
what the whole run has found.
-/

namespace ApiStubs
namespace Generation

/-- A stub: the namespace it declares and its text. -/
structure StubUnit where
  space : String
  content : String
  deriving DecidableEq, Repr

/-- Why a run ends early. -/
inductive Failure where
  | invalidPattern (invalid : Stub.InvalidPattern)
  | unknownType (unknown : UnknownType)
  deriving DecidableEq, Repr

/-- What a run is given besides its modules. -/
structure Options where
  settings : Settings
  version : String
  strict : Option Bool := none
  deriving DecidableEq, Repr

def Options.isStrict (options : Options) : Bool :=
  options.strict.getD options.settings.generation.strict

/-- The merged modules, ordered by namespace. -/
def order (modules : List ApiModule) : List ApiModule :=
  (ApiModule.merge modules).mergeSort (fun a b => Text.unitsLE a.space b.space)

def registerElement (catalog : Catalog) : Element → Catalog
  | .constant name description =>
      (catalog.registerFull name (description.getD "")).1
  | _ => catalog

/-- The constants of all modules. -/
def registerAll (modules : List ApiModule) : Catalog :=
  (modules.flatMap (·.elements)).foldl registerElement {}

/-- A module with its declarations. -/
structure RenderedModule where
  source : ApiModule
  declarations : List Stub.Declaration
  deriving DecidableEq, Repr

/-- Renders the modules; one without renderable elements is left out. -/
def renderModules (rules : Stub.Rules) :
    List ApiModule → Rendering (List RenderedModule)
  | [] => return []
  | m :: rest => do
      let elements := m.elements.filter Element.isRenderable
      if elements.isEmpty then
        Rendering.report (.moduleSkipped m.space)
        renderModules rules rest
      else
        let declarations ← rules.declare (Stub.sortElements elements)
        return ⟨m, declarations⟩ :: (← renderModules rules rest)

/-- Some element lives in the namespace of the module. -/
def declaresNamespace (m : ApiModule) : Bool :=
  m.elements.any (fun element => Text.startsWith element.name m.space)

def compose (registry : Registry) (options : Options) (rendered : RenderedModule) :
    StubUnit :=
  let m := rendered.source
  let output := options.settings.output
  let aliases := Stub.aliasesText (Stub.aliasBlocksOf registry m.space)
  let fields := Stub.fieldsText (Stub.fieldsOf registry m.space)
  let body := Stub.body aliases rendered.declarations
  let header : Stub.Header :=
    { generatorUrl := output.generatorUrl
      product := output.product
      version := options.version
      title := m.brief
      description := m.description }
  let content :=
    if declaresNamespace m then
      Stub.namespaceText output.classPrefix m.space fields body
    else body
  ⟨m.space, header.text ++ "\n\n" ++ Stub.diagnostics output.disabledDiagnostics ++
    "\n\n" ++ content ++ "\n"⟩

structure Outcome where
  result : Except Failure (List StubUnit)
  events : List Event

/-- Renders and composes the ordered modules after inference. -/
def finish (options : Options) (rules : Stub.Rules) (modules : List ApiModule)
    (session : Session) : Outcome :=
  match (renderModules rules modules).run.run session with
  | (.error unknown, session) => ⟨.error (.unknownType unknown), session.events⟩
  | (.ok rendered, session) =>
      let units := rendered.map (compose session.registry options)
      let completed := Event.generationCompleted units.length
        session.registry.catalog.size session.registry.ledger.listing.length
      ⟨.ok units, session.events ++ [completed]⟩

/-- Generates the stubs of modules. -/
def generate (modules : List ApiModule) (options : Options) : Outcome :=
  let strict := options.isStrict
  let started := Event.generationStarted modules.length options.version strict
  let ordered := order modules
  let inference := Prefix.infer { catalog := registerAll ordered }
  let events := started :: inference.events
  match Stub.Rules.ofSettings options.settings strict with
  | .error invalid => ⟨.error (.invalidPattern invalid), events⟩
  | .ok rules => finish options rules ordered ⟨inference.registry, events⟩

end Generation
end ApiStubs
