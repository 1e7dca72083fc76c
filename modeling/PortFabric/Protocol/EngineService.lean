import PortFabric.Engine.Views
import PortFabric.Protocol.Message

/-!
# Queries over the wire

How the service answers a query message: the part of the engine it selects, in
the lists and in the text of the response.
-/

set_option autoImplicit false

namespace PortFabric.EngineService

open PortFabricEngine

/-- The text of what was found, or the outcome that tells it is not there. -/
def answerText {α : Type} (response : QueryResponse Outcome) (found : Option α)
    (render : α → Text) (absent : Outcome) : QueryResponse Outcome :=
  match found with
  | none => { response with outcome := absent }
  | some value => { response with text := render value }

/-- The counts and the marks of the engine in one line. -/
def engineInfo (impl : EngineImpl) : Text :=
  text "ports=" ++ formatU64 (portCount impl) ++
  text " profiles=" ++ formatU64 (profileCount impl) ++
  text " generation=" ++ impl.generation.formatOrNone ++
  text " epoch=" ++ impl.epoch.formatOrNone ++
  text " digest=" ++ (stateDigest impl).toHex

def onQuery (runtime : Runtime) (impl : EngineImpl) (message : QueryMessage) :
    QueryResponse Outcome :=
  let response : QueryResponse Outcome :=
    { outcome := {}
      kind := message.kind
      generation := impl.generation
      epoch := impl.epoch
      digest := stateDigest impl }
  let unbound : Outcome := .failure .unknownPort "the port is not bound to this runtime"
  match message.kind with
  | .port =>
      match record impl message.port with
      | none =>
          { response with
            outcome :=
              .failure .unknownPort "the port identity is not bound to this runtime" }
      | some record => { response with records := [record], text := record.toText }
  | .configuration =>
      answerText response (configuration impl message.port) PortConfiguration.toText
        (.failure .unknownPort "no committed configuration exists for this port")
  | .lifecycle =>
      answerText response (lifecycle impl message.port) PortLifecycle.toText unbound
  | .administrativeState =>
      answerText response (administrativeState impl message.port) AdministrativeState.toText
        (.failure .unknownPort "the port carries no administrative state")
  | .ownership =>
      answerText response (ownership impl message.port) PortOwnership.toText
        (.failure .unknownOwnership "the port is not owned")
  | .capabilityBinding =>
      answerText response (capabilityBinding impl message.port) CapabilityBinding.toText unbound
  | .appliedEvidence =>
      answerText response (appliedEvidence impl message.port) AppliedEvidence.toText unbound
  | .portsOfDevice => { response with ports := portsOfDevice impl message.device }
  | .portsWithLifecycle => { response with ports := portsWithLifecycle impl message.lifecycle }
  | .portsRequiringRevalidation =>
      { response with ports := portsRequiringRevalidation impl }
  | .portsOfOwner => { response with ports := portsOfOwner impl message.owner }
  | .portsByProfile => { response with ports := portsByProfile impl message.profile }
  | .derivedPorts => { response with ports := derivedPorts impl message.port }
  | .staleProfileBindings => { response with ports := portsWithStaleProfileBinding impl }
  | .explain => { response with text := (explain impl message.port).toText }
  | .snapshot =>
      let taken := snapshot runtime impl
      { response with records := taken.records, text := taken.toText }
  | .engineInfo => { response with text := engineInfo impl }
  | .profiles => { response with profiles := profiles impl }
  | .devices => { response with devices := devices impl }

end PortFabric.EngineService
