import PortFabric.Outcome
import PortFabric.WireReader

/-!
# Protocol messages

The messages carried in frame payloads, with their encoders and decoders. An
encoder fails as a whole when a field is over its bound; a decoder reports the
part that is malformed.
-/

set_option autoImplicit false

namespace PortFabric

/-- The codes in the order of their bytes. -/
def OutcomeCode.declared : List OutcomeCode :=
  [ .ok, .idempotent, .alreadyCurrent, .malformedRequest, .unknownPort, .unknownDevice,
    .unknownProfile, .unknownPublisher, .unknownOwnership, .unknownAggregate, .wrongEntityClass,
    .duplicateRecord, .resourceBoundExceeded, .invalidText, .invalidEnumValue,
    .staleDeviceGeneration, .staleTopologyGeneration, .staleConfigurationGeneration,
    .staleCapabilityGeneration, .staleWorkerBoot, .staleCoordinatorEpoch,
    .staleOwnershipGeneration, .unauthorizedOwner, .ownershipConflict, .publisherFenced,
    .fencedByRestart, .unsupportedConfiguration, .capabilityUnknown, .capabilityUnavailable,
    .invalidLifecycleTransition, .invalidConfiguration, .invalidSpeed, .invalidMtu,
    .invalidLaneConfiguration, .invalidBreakout, .invalidProfile, .portRetired, .portSuperseded,
    .revalidationRequired, .driftDetected, .conflictDetected, .transceiverUnknown, .applyFailed,
    .applyOutcomeUnknown, .readbackMismatch, .adapterUnavailable, .persistenceCorruption,
    .persistenceVersionUnsupported, .persistenceIoFailure, .persistenceBoundsExceeded,
    .transportFailure, .internalError, .shuttingDown ]

def OutcomeCode.byte (code : OutcomeCode) : Nat := declared.idxOf code

/-- An outcome as it is read: its code is any byte. -/
structure ReceivedOutcome where
  code : UInt8
  message : Text := []
  details : List (Text × Text) := []
  deriving DecidableEq

/-- What a peer that reads the outcome sees of it. -/
def Outcome.received (outcome : Outcome) : ReceivedOutcome where
  code := UInt8.ofNat outcome.code.byte
  message := outcome.message
  details := outcome.details

namespace ReceivedOutcome

/-- Replaces the message by a bounded single line. -/
def withMessage (outcome : ReceivedOutcome) (message : Text) : ReceivedOutcome :=
  { outcome with message := truncate (singleLine message) maxDescriptionLength }

/-- Attaches a bounded, single-line detail; surplus details are ignored. -/
def withDetail (outcome : ReceivedOutcome) (detail : Text × Text) : ReceivedOutcome :=
  if outcome.details.length ≥ maxOutcomeDetails then
    outcome
  else
    { outcome with
      details := outcome.details ++
        [(truncate (singleLine detail.1) maxNameLength,
          truncate (singleLine detail.2) maxDescriptionLength)] }

/-- A code outside the enumeration is shown as an internal error. -/
def codeText (outcome : ReceivedOutcome) : Text :=
  (OutcomeCode.declared[outcome.code.toNat]?).elim "INTERNAL_ERROR" OutcomeCode.toText

def toText (outcome : ReceivedOutcome) : Text :=
  outcome.details.foldl (fun out detail => out ++ text " " ++ detail.1 ++ text "=" ++ detail.2)
    (outcome.codeText ++ text ": " ++
      if outcome.message.isEmpty then text "no detail" else outcome.message)

end ReceivedOutcome

structure HelloMessage where
  version : UInt16 := 1
  publisher : PublisherId := .null
  boot : WorkerBootId := .null
  epoch : CoordinatorEpoch := .null
  /-- Bounded role label of the connecting process. -/
  role : Text := []
  deriving DecidableEq

structure HelloAckMessage where
  accepted : Bool := false
  epoch : CoordinatorEpoch := .null
  detail : Text := []
  deriving DecidableEq

structure RegisterPublisherMessage where
  publisher : PublisherId := .null
  boot : WorkerBootId := .null
  epoch : CoordinatorEpoch := .null
  deriving DecidableEq

structure FenceMessage where
  publisher : PublisherId := .null
  boot : WorkerBootId := .null
  detail : Text := []
  deriving DecidableEq

/-- One mutation request; enumerations that dispatch checks are carried as raw bytes. -/
structure PortMutationMessage where
  kind : UInt8 := 0
  authority : AuthorityContext := {}
  port : PortId := .null
  parentDevice : DeviceId := .null
  deviceGeneration : DeviceGeneration := .null
  configuration : Option PortConfiguration := none
  administrativeOp : UInt8 := 0
  profile : PortProfileId := .null
  profileGeneration : PortProfileGeneration := .null
  release : Bool := false
  capability : CapabilityBinding := {}
  detail : Text := []
  ownerKind : UInt8 := 0
  owner : OwnerId := .null
  exclusive : Bool := true
  evidence : AppliedEvidence := {}
  drift : UInt8 := 0
  provenanceKind : UInt8 := 0
  provenanceSource : Text := []
  deriving DecidableEq

inductive QueryKind where
  | port | configuration | lifecycle | administrativeState | ownership | capabilityBinding
  | appliedEvidence | portsOfDevice | portsWithLifecycle | portsRequiringRevalidation
  | portsOfOwner | portsByProfile | derivedPorts | staleProfileBindings | explain | snapshot
  | engineInfo | profiles | devices
  deriving DecidableEq, Repr

def QueryKind.declared : List QueryKind :=
  [ .port, .configuration, .lifecycle, .administrativeState, .ownership, .capabilityBinding,
    .appliedEvidence, .portsOfDevice, .portsWithLifecycle, .portsRequiringRevalidation,
    .portsOfOwner, .portsByProfile, .derivedPorts, .staleProfileBindings, .explain, .snapshot,
    .engineInfo, .profiles, .devices ]

def QueryKind.byte (kind : QueryKind) : Nat := declared.idxOf kind

structure QueryMessage where
  kind : QueryKind := .port
  port : PortId := .null
  device : DeviceId := .null
  owner : OwnerId := .null
  profile : PortProfileId := .null
  lifecycle : PortLifecycle := .unconfigured
  administrative : AdministrativeState := .unknown
  deriving DecidableEq

/-- A query response, with the outcome as it is sent or as it was received. -/
structure QueryResponse (ω : Type) where
  outcome : ω
  kind : QueryKind := .port
  ports : List PortId := []
  records : List PortRecord := []
  profiles : List PortProfile := []
  devices : List DeviceBinding := []
  text : Text := []
  generation : EngineGeneration := .null
  epoch : CoordinatorEpoch := .null
  digest : Digest := .zero
  deriving DecidableEq

/-- What a peer that reads the response sees of it. -/
def QueryResponse.received (response : QueryResponse Outcome) : QueryResponse ReceivedOutcome :=
  { response with outcome := response.outcome.received }

/-! ## Encoders -/

namespace ByteWriter

def writeOutcome (writer : ByteWriter) (outcome : Outcome) : ByteWriter :=
  let writer := writer.u8 outcome.code.byte
  let writer := writer.text outcome.message maxDescriptionLength
  let writer := writer.u32 outcome.details.length
  writer.each outcome.details fun w detail =>
    (w.text detail.1 maxNameLength).text detail.2 maxDescriptionLength

def writeHello (writer : ByteWriter) (message : HelloMessage) : ByteWriter :=
  let writer := writer.u16 message.version.toNat
  let writer := writer.writeId message.publisher
  let writer := writer.writeId message.boot
  let writer := writer.generation message.epoch
  writer.text message.role maxNameLength

def writeHelloAck (writer : ByteWriter) (message : HelloAckMessage) : ByteWriter :=
  ((writer.boolean message.accepted).generation message.epoch).text message.detail
    maxDescriptionLength

def writeRegisterPublisher (writer : ByteWriter) (message : RegisterPublisherMessage) :
    ByteWriter :=
  ((writer.writeId message.publisher).writeId message.boot).generation message.epoch

def writeFence (writer : ByteWriter) (message : FenceMessage) : ByteWriter :=
  ((writer.writeId message.publisher).writeId message.boot).text message.detail
    maxDescriptionLength

def writeMutation (writer : ByteWriter) (message : PortMutationMessage) : ByteWriter :=
  let writer := writer.u8 message.kind.toNat
  let writer := writer.writeAuthority message.authority
  let writer := writer.writeId message.port
  let writer := writer.writeId message.parentDevice
  let writer := writer.generation message.deviceGeneration
  let writer := writer.boolean message.configuration.isSome
  let writer := message.configuration.elim writer writer.writeConfiguration
  let writer := writer.u8 message.administrativeOp.toNat
  let writer := writer.writeId message.profile
  let writer := writer.generation message.profileGeneration
  let writer := writer.boolean message.release
  let writer := writer.writeCapabilityBinding message.capability
  let writer := writer.text message.detail maxDescriptionLength
  let writer := writer.u8 message.ownerKind.toNat
  let writer := writer.writeId message.owner
  let writer := writer.boolean message.exclusive
  let writer := writer.writeApplied message.evidence
  let writer := writer.u8 message.drift.toNat
  let writer := writer.u8 message.provenanceKind.toNat
  writer.text message.provenanceSource maxNameLength

def writeQuery (writer : ByteWriter) (message : QueryMessage) : ByteWriter :=
  let writer := writer.u8 message.kind.byte
  let writer := writer.writeId message.port
  let writer := writer.writeId message.device
  let writer := writer.writeId message.owner
  let writer := writer.writeId message.profile
  let writer := writer.u8 message.lifecycle.byte
  writer.u8 message.administrative.byte

def writeQueryResponse (writer : ByteWriter) (response : QueryResponse Outcome) : ByteWriter :=
  let writer := writer.writeOutcome response.outcome
  let writer := writer.u8 response.kind.byte
  let writer := (writer.u32 response.ports.length).each response.ports writeId
  let writer := (writer.u32 response.records.length).each response.records writeRecord
  let writer := (writer.u32 response.profiles.length).each response.profiles writeProfile
  let writer := (writer.u32 response.devices.length).each response.devices writeDevice
  let writer := writer.text response.text maxQueryTextBytes
  let writer := writer.generation response.generation
  let writer := writer.generation response.epoch
  writer.text response.digest.toHex 64

/-- The content of a sound writer that starts empty. -/
def payload (write : ByteWriter → ByteWriter) (error : Outcome) : Except Outcome Text :=
  let writer := write { limit := maxFrameBytes }
  if writer.ok then .ok writer.out else .error error

end ByteWriter

def encodeOutcome (outcome : Outcome) : Except Outcome Text :=
  ByteWriter.payload (·.writeOutcome outcome)
    (.failure .malformedRequest "the outcome could not be encoded")

def encodeHello (message : HelloMessage) : Except Outcome Text :=
  ByteWriter.payload (·.writeHello message)
    (.failure .malformedRequest "the hello message could not be encoded")

def encodeHelloAck (message : HelloAckMessage) : Except Outcome Text :=
  ByteWriter.payload (·.writeHelloAck message)
    (.failure .malformedRequest "the hello acknowledgement is too large")

def encodeRegisterPublisher (message : RegisterPublisherMessage) : Except Outcome Text :=
  ByteWriter.payload (·.writeRegisterPublisher message)
    (.failure .malformedRequest "the publisher registration could not be encoded")

def encodeFence (message : FenceMessage) : Except Outcome Text :=
  ByteWriter.payload (·.writeFence message)
    (.failure .malformedRequest "the fence message could not be encoded")

def encodeMutation (message : PortMutationMessage) : Except Outcome Text :=
  ByteWriter.payload (·.writeMutation message)
    (.failure .malformedRequest "the mutation message exceeds the frame bound")

def encodeQuery (message : QueryMessage) : Except Outcome Text :=
  ByteWriter.payload (·.writeQuery message)
    (.failure .malformedRequest "the query message could not be encoded")

def encodeQueryResponse (response : QueryResponse Outcome) : Except Outcome Text :=
  if response.ports.length > maxSnapshotPorts then
    .error (.failure .resourceBoundExceeded
      "the query response exceeds the configured port bound")
  else
    ByteWriter.payload (·.writeQueryResponse response)
      (.failure .resourceBoundExceeded "the query response exceeds the configured frame bound")

end PortFabric
