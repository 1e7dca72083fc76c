import PortFabric.Engine.Binding
import PortFabric.Protocol.Message

/-!
# Dispatch

How a decoded mutation message becomes a request to the engine. Enumerations
arrive as raw bytes: two of them are checked, the others are cast.
-/

set_option autoImplicit false

namespace PortFabric

/-- The cast of a byte; behind the declared kinds every byte is an illegal value of its own. -/
def ProvenanceKind.cast (raw : UInt8) : ProvenanceKind :=
  (ofByte raw.toNat).getD (.illegal (Fin.ofNat 246 (raw.toNat - 10)))

def PortOwnerKind.cast (raw : UInt8) : PortOwnerKind :=
  (ofByte raw.toNat).getD (.illegal (Fin.ofNat 250 (raw.toNat - 6)))

def DriftState.cast (raw : UInt8) : DriftState :=
  (ofByte raw.toNat).getD (.illegal (Fin.ofNat 251 (raw.toNat - 5)))

def AdministrativeOp.declared : List AdministrativeOp :=
  [.enable, .disable, .drain, .enterMaintenance, .resume, .requireRevalidation]

def AdministrativeOp.cast (raw : UInt8) : AdministrativeOp :=
  declared[raw.toNat]?.getD (.illegal (Fin.ofNat 250 (raw.toNat - 6)))

/-- The kinds in the order of their bytes. -/
def PortMutationKind.declared : List PortMutationKind :=
  [ .bindPort, .configure, .reconfigure, .administrative, .assignProfile, .bindCapabilities,
    .reconcile, .supersede, .retire, .claimOwnership, .transferOwnership, .releaseOwnership,
    .recordAppliedEvidence, .observeExternalState ]

/-- What the engine is asked to do. -/
inductive EngineRequest where
  | bind (request : PortBindingRequest)
  | mutate (mutation : Mutation)
  deriving DecidableEq

namespace PortMutationMessage

variable (message : PortMutationMessage)

def envelope : MutationEnvelope where
  authority := message.authority
  port := message.port
  provenanceKind := .cast message.provenanceKind
  provenanceSource := message.provenanceSource

def bindingRequest : PortBindingRequest where
  port := message.port
  parentDevice := message.parentDevice
  deviceGeneration := message.deviceGeneration
  provenanceKind := message.envelope.provenanceKind
  provenanceSource := message.envelope.provenanceSource
  epoch := message.authority.epoch
  attempt := message.authority.attempt

def administrativeRequest : AdministrativeRequest where
  envelope := message.envelope
  op := .cast message.administrativeOp

/-- A profile assignment carries no configuration payload. -/
def profileRequest : ProfileRequest where
  envelope := message.envelope
  profile := message.profile
  generation := message.profileGeneration
  release := message.release

def capabilityRequest : CapabilityRequest where
  envelope := message.envelope
  binding := message.capability

def reconcileRequest : ReconcileRequest where
  envelope := message.envelope
  detail := message.detail

def fenceRequest : FenceRequest where
  envelope := message.envelope
  detail := message.detail

def ownershipRequest : OwnershipRequest where
  envelope := message.envelope
  ownerKind := .cast message.ownerKind
  owner := message.owner
  exclusive := message.exclusive

def evidenceRequest : EvidenceRequest where
  envelope := message.envelope
  evidence := message.evidence

def driftRequest : DriftRequest where
  envelope := message.envelope
  observed := .cast message.drift
  detail := message.detail

/-- The switch over the kind; an error is the text the message is refused with. -/
def request : Except Text EngineRequest :=
  match PortMutationKind.declared[message.kind.toNat]? with
  | none => .error "the mutation kind is not a legal value"
  | some kind =>
  match kind with
  | .bindPort => .ok (.bind message.bindingRequest)
  | .configure =>
      match message.configuration with
      | none => .error "a configuration mutation requires a configuration payload"
      | some configuration =>
          .ok (.mutate (.configure { envelope := message.envelope, configuration }))
  | .reconfigure =>
      match message.configuration with
      | none => .error "a reconfiguration requires a configuration payload"
      | some configuration =>
          .ok (.mutate (.reconfigure { envelope := message.envelope, configuration }))
  | .administrative =>
      if message.administrativeRequest.op.isValid then
        .ok (.mutate (.administrative message.administrativeRequest))
      else
        .error "the administrative operation is not a legal value"
  | .assignProfile => .ok (.mutate (.assignProfile message.profileRequest))
  | .bindCapabilities => .ok (.mutate (.bindCapabilities message.capabilityRequest))
  | .reconcile => .ok (.mutate (.reconcile message.reconcileRequest))
  | .supersede => .ok (.mutate (.supersede message.fenceRequest))
  | .retire => .ok (.mutate (.retire message.fenceRequest))
  | .claimOwnership => .ok (.mutate (.claimOwnership message.ownershipRequest))
  | .transferOwnership => .ok (.mutate (.transferOwnership message.ownershipRequest))
  | .releaseOwnership => .ok (.mutate (.releaseOwnership message.ownershipRequest))
  | .recordAppliedEvidence => .ok (.mutate (.recordAppliedEvidence message.evidenceRequest))
  | .observeExternalState =>
      if message.driftRequest.observed.isValid then
        .ok (.mutate (.observeExternalState message.driftRequest))
      else
        .error "the observed drift state is not a legal value"

end PortMutationMessage

namespace EngineService

open PortFabricEngine

/-- The engine is asked once, or not at all when the message is refused. -/
def dispatch (runtime : Runtime) (answers : MutationAnswers) (impl : EngineImpl)
    (message : PortMutationMessage) : EngineImpl × Reply :=
  match message.request with
  | .error detail => (impl, .reject .malformedRequest detail)
  | .ok (.bind request) =>
      let bound := bindPort runtime impl request answers
      (bound.1, .result bound.2)
  | .ok (.mutate mutation) => executeMutation runtime mutation answers impl

end EngineService

end PortFabric
