import PortFabric.Adapter
import PortFabric.Authority
import PortFabric.Engine.State

/-!
# Requests

The requests callers submit, the payload each is identified by, and the result
every mutation reports.
-/

set_option autoImplicit false

namespace PortFabric

inductive PortMutationKind where
  | bindPort | configure | reconfigure | administrative | assignProfile | bindCapabilities
  | reconcile | supersede | retire | claimOwnership | transferOwnership | releaseOwnership
  | recordAppliedEvidence | observeExternalState
  deriving DecidableEq, Repr

structure PortBindingRequest where
  port : PortId
  parentDevice : DeviceId
  entityClass : PortEntityClass := .unknown
  deviceGeneration : DeviceGeneration
  provenanceKind : ProvenanceKind := .operator
  provenanceSource : Text := []
  epoch : CoordinatorEpoch
  attempt : MutationAttemptId
  deriving DecidableEq

structure MutationEnvelope where
  authority : AuthorityContext
  port : PortId
  provenanceKind : ProvenanceKind := .operator
  provenanceSource : Text := []
  deriving DecidableEq

structure ConfigureRequest where
  envelope : MutationEnvelope
  configuration : PortConfiguration
  deriving DecidableEq

structure ReconfigureRequest where
  envelope : MutationEnvelope
  configuration : PortConfiguration
  deriving DecidableEq

structure AdministrativeRequest where
  envelope : MutationEnvelope
  op : AdministrativeOp := .enable
  deriving DecidableEq

structure ProfileRequest where
  envelope : MutationEnvelope
  profile : PortProfileId := .null
  generation : PortProfileGeneration := .null
  release : Bool := false
  deriving DecidableEq

structure CapabilityRequest where
  envelope : MutationEnvelope
  binding : CapabilityBinding
  deriving DecidableEq

structure ReconcileRequest where
  envelope : MutationEnvelope
  detail : Text := []
  deriving DecidableEq

structure FenceRequest where
  envelope : MutationEnvelope
  detail : Text := []
  deriving DecidableEq

structure OwnershipRequest where
  envelope : MutationEnvelope
  ownerKind : PortOwnerKind := .unknown
  owner : OwnerId := .null
  exclusive : Bool := true
  /-- Process incarnation that holds the ownership after a transfer. -/
  delegatePublisher : PublisherId := .null
  delegateBoot : WorkerBootId := .null
  deriving DecidableEq

structure EvidenceRequest where
  envelope : MutationEnvelope
  evidence : AppliedEvidence
  deriving DecidableEq

structure DriftRequest where
  envelope : MutationEnvelope
  observed : DriftState := .unknown
  detail : Text := []
  deriving DecidableEq

inductive Mutation where
  | configure (request : ConfigureRequest)
  | reconfigure (request : ReconfigureRequest)
  | administrative (request : AdministrativeRequest)
  | assignProfile (request : ProfileRequest)
  | bindCapabilities (request : CapabilityRequest)
  | reconcile (request : ReconcileRequest)
  | supersede (request : FenceRequest)
  | retire (request : FenceRequest)
  | claimOwnership (request : OwnershipRequest)
  | transferOwnership (request : OwnershipRequest)
  | releaseOwnership (request : OwnershipRequest)
  | recordAppliedEvidence (request : EvidenceRequest)
  | observeExternalState (request : DriftRequest)
  deriving DecidableEq

/-- The fields that make two identical configurations look different are skipped. -/
def isBookkeeping (name : Text) : Bool :=
  name = text "provenance_attempt" || name = text "provenance_epoch" ||
    name = text "evidence_generation"

def canonicalPayload (configuration : PortConfiguration) : Text :=
  (configuration.canonicalFields.filter fun field => !isBookkeeping field.1).flatMap
    fun field => field.1 ++ text "=" ++ field.2 ++ text ";"

def configurationSemanticallyEqual (lhs rhs : PortConfiguration) : Bool :=
  canonicalPayload lhs = canonicalPayload rhs

namespace Mutation

def kind : Mutation → PortMutationKind
  | configure _ => .configure
  | reconfigure _ => .reconfigure
  | administrative _ => .administrative
  | assignProfile _ => .assignProfile
  | bindCapabilities _ => .bindCapabilities
  | reconcile _ => .reconcile
  | supersede _ => .supersede
  | retire _ => .retire
  | claimOwnership _ => .claimOwnership
  | transferOwnership _ => .transferOwnership
  | releaseOwnership _ => .releaseOwnership
  | recordAppliedEvidence _ => .recordAppliedEvidence
  | observeExternalState _ => .observeExternalState

def envelope : Mutation → MutationEnvelope
  | configure request => request.envelope
  | reconfigure request => request.envelope
  | administrative request => request.envelope
  | assignProfile request => request.envelope
  | bindCapabilities request => request.envelope
  | reconcile request => request.envelope
  | supersede request => request.envelope
  | retire request => request.envelope
  | claimOwnership request => request.envelope
  | transferOwnership request => request.envelope
  | releaseOwnership request => request.envelope
  | recordAppliedEvidence request => request.envelope
  | observeExternalState request => request.envelope

abbrev authority (mutation : Mutation) : AuthorityContext := mutation.envelope.authority

abbrev port (mutation : Mutation) : PortId := mutation.envelope.port

abbrev attempt (mutation : Mutation) : MutationAttemptId := mutation.authority.attempt

/-- The payload text that classifies a repeated attempt. -/
def payload : Mutation → Text
  | configure request => canonicalPayload request.configuration
  | reconfigure request => canonicalPayload request.configuration
  | administrative request => text "ADMINISTRATIVE|" ++ request.op.toText
  | assignProfile request =>
      text "ASSIGN_PROFILE|" ++
        if request.release then text "RELEASE"
        else request.profile.value ++ text "@" ++ request.generation.format
  | bindCapabilities request =>
      text "BIND_CAPABILITIES|" ++ request.binding.generation.format ++ text "|" ++
        request.binding.capabilities.toText
  | reconcile request => text "RECONCILE|" ++ request.detail
  | supersede request => text "SUPERSEDE|" ++ request.detail
  | retire request => text "RETIRE|" ++ request.detail
  | claimOwnership request =>
      text "CLAIM_OWNERSHIP|" ++ request.ownerKind.toText ++ text "|" ++ request.owner.value
  | transferOwnership request =>
      text "TRANSFER_OWNERSHIP|" ++ request.ownerKind.toText ++ text "|" ++ request.owner.value
  | releaseOwnership _ => "RELEASE_OWNERSHIP"
  | recordAppliedEvidence request =>
      text "RECORD_APPLIED_EVIDENCE|" ++ request.evidence.outcome.toText ++ text "|" ++
        request.evidence.generation.format
  | observeExternalState request =>
      text "OBSERVE_EXTERNAL_STATE|" ++ request.observed.toText ++ text "|" ++ request.detail

def payloadDigest (mutation : Mutation) : UInt64 :=
  payloadDigestOf (digestBytes mutation.payload)

def fallbackProvenance : Mutation → ProvenanceKind
  | reconcile _ => .reconciliation
  | recordAppliedEvidence _ | observeExternalState _ => .hostAdapter
  | _ => .operator

end Mutation

structure MutationResult where
  outcome : Outcome
  lifecycle : PortLifecycle := .unconfigured
  configurationGeneration : PortConfigurationGeneration := .null
  ownershipGeneration : PortOwnershipGeneration := .null
  recordDigest : Digest := Digest.zero
  deriving DecidableEq

namespace MutationResult

def rejected (code : OutcomeCode) (message : Text) : MutationResult where
  outcome := .failure code message

def reporting (outcome : Outcome) (record : PortRecord) : MutationResult where
  outcome
  lifecycle := record.lifecycle
  configurationGeneration := record.generations.configuration
  ownershipGeneration := record.generations.ownership
  recordDigest := digestRecord record

def accepted (result : MutationResult) : Bool := result.outcome.accepted

end MutationResult

/--
How a mutation call ends. `undefinedBehaviour` is the dereference of an empty
optional, which the language gives no meaning.
-/
inductive Reply where
  | result (answer : MutationResult)
  | undefinedBehaviour
  deriving DecidableEq

namespace Reply

def reject (code : OutcomeCode) (message : Text) : Reply :=
  .result (.rejected code message)

def code? : Reply → Option OutcomeCode
  | .result answer => some answer.outcome.code
  | .undefinedBehaviour => none

end Reply

structure ProviderAnswer where
  binding : Option CapabilityBinding := none
  error : Text := []
  deriving DecidableEq

/-- Everything outside the engine that one mutation call consults. -/
structure MutationAnswers where
  provider : ProviderAnswer := {}
  apply : AdapterApplyResult := {}
  readback : AdapterReadback := {}
  store : StoreAnswers := {}
  deriving DecidableEq

end PortFabric
