import PortFabric.Authority
import PortFabric.Codec
import PortFabric.Profile

/-!
# Wire encoding

The bytes of enumerations and the writers of every persisted value.
-/

set_option autoImplicit false

namespace PortFabric

def PortMode.byte : PortMode → Nat
  | physical => 0 | logical => 1 | illegal raw => 2 + raw

def ProtocolFamily.byte : ProtocolFamily → Nat
  | unknown => 0 | ethernet => 1 | infiniBand => 2 | fibreChannel => 3 | opticalTransport => 4
  | overlay => 5 | synthetic => 6 | illegal raw => 7 + raw

def FecMode.byte : FecMode → Nat
  | unknown => 0 | unsupported => 1 | none => 2 | firecode => 3 | reedSolomon528 => 4
  | reedSolomon544 => 5 | reedSolomon544Interleaved => 6 | reedSolomon272Interleaved => 7
  | illegal raw => 8 + raw

def DuplexMode.byte : DuplexMode → Nat
  | unknown => 0 | unsupported => 1 | half => 2 | full => 3 | illegal raw => 4 + raw

def AutonegPolicy.byte : AutonegPolicy → Nat
  | unknown => 0 | unsupported => 1 | forced => 2 | preferred => 3 | negotiated => 4
  | illegal raw => 5 + raw

def PauseMode.byte : PauseMode → Nat
  | unknown => 0 | unsupported => 1 | disabled => 2 | transmit => 3 | receive => 4
  | bidirectional => 5 | illegal raw => 6 + raw

def BreakoutMode.byte : BreakoutMode → Nat
  | none => 0 | x2 => 1 | x4 => 2 | x8 => 3 | illegal raw => 4 + raw

def SpeedSelection.byte : SpeedSelection → Nat
  | auto => 0 | forced => 1 | illegal raw => 2 + raw

def AdministrativeState.byte : AdministrativeState → Nat
  | unknown => 0 | enabled => 1 | disabled => 2 | draining => 3 | maintenance => 4
  | revalidationRequired => 5 | illegal raw => 6 + raw

def PortLifecycle.byte : PortLifecycle → Nat
  | unconfigured => 0 | configured => 1 | active => 2 | adminDisabled => 3 | draining => 4
  | maintenance => 5 | revalidationRequired => 6 | superseded => 7 | retired => 8 | conflicted => 9

def CapabilityCertainty.byte : CapabilityCertainty → Nat
  | unknown => 0 | known => 1 | partially => 2 | illegal raw => 3 + raw

def ProvenanceKind.byte : ProvenanceKind → Nat
  | unknown => 0 | operator => 1 | networkController => 2 | switchAgent => 3 | hostAgent => 4
  | delegatedSubsystem => 5 | syntheticBackend => 6 | hostAdapter => 7 | recovery => 8
  | reconciliation => 9 | illegal raw => 10 + raw

def PortOwnerKind.byte : PortOwnerKind → Nat
  | unknown => 0 | switchAgent => 1 | hostAgent => 2 | networkController => 3
  | administrativeControlPlane => 4 | delegatedSubsystem => 5 | illegal raw => 6 + raw

def AppliedOutcome.byte : AppliedOutcome → Nat
  | notAttempted => 0 | applied => 1 | applyFailed => 2 | outcomeUnknown => 3 | verified => 4
  | unsupported => 5 | illegal raw => 6 + raw

def DriftState.byte : DriftState → Nat
  | unknown => 0 | inSync => 1 | drifted => 2 | revalidationRequired => 3 | conflicted => 4
  | illegal raw => 5 + raw

/-- Device generation known to the runtime. -/
structure DeviceBinding where
  device : DeviceId
  generation : DeviceGeneration
  source : Text := []
  deriving DecidableEq

/-- Publisher incarnation known to the coordinator. -/
structure PublisherRecord where
  publisher : PublisherId
  boot : WorkerBootId
  epoch : CoordinatorEpoch
  fenced : Bool := false
  deriving DecidableEq

namespace ByteWriter

def writeId {domain : IdDomain} (writer : ByteWriter) (id : StrongId domain) : ByteWriter :=
  writer.text id.value maxIdentifierLength

def generation {domain : GenerationDomain} (writer : ByteWriter) (value : Generation domain) :
    ByteWriter :=
  writer.u64 value.value

def writeProvenance (writer : ByteWriter) (provenance : Provenance) : ByteWriter :=
  ((((((writer.u8 provenance.kind.byte).text provenance.source maxNameLength).writeId
    provenance.publisher).writeId provenance.boot).generation provenance.epoch).writeId
    provenance.attempt)

def writeCapabilities (writer : ByteWriter) (capabilities : PortCapabilities) : ByteWriter :=
  let writer := writer.u8 capabilities.certainty.byte
  let writer := writer.u32 capabilities.supportedSpeeds.length
  let writer := writer.each capabilities.supportedSpeeds fun w speed => w.u64 speed.bitsPerSecond
  let writer := writer.u32 capabilities.laneModes.length
  let writer := writer.each capabilities.laneModes fun w lanes => w.u32 lanes.toNat
  let writer := writer.u32 capabilities.maxLanes.toNat
  let writer := writer.boolean capabilities.breakoutSupported
  let writer := writer.u32 capabilities.maxBreakoutChildren.toNat
  let writer := writer.u32 capabilities.fecModes.length
  let writer := writer.each capabilities.fecModes fun w mode => w.u8 mode.byte
  let writer := writer.u32 capabilities.autonegModes.length
  let writer := writer.each capabilities.autonegModes fun w policy => w.u8 policy.byte
  let writer := writer.u32 capabilities.pauseModes.length
  let writer := writer.each capabilities.pauseModes fun w mode => w.u8 mode.byte
  let writer := writer.u32 capabilities.protocolFamilies.length
  let writer := writer.each capabilities.protocolFamilies fun w family => w.u8 family.byte
  let writer := writer.u32 capabilities.capabilityMtuMin.toNat
  let writer := writer.u32 capabilities.capabilityMtuMax.toNat
  let writer := writer.u8 capabilities.duplex.byte
  let writer := writer.boolean capabilities.logicalInterfaceSupported
  let writer := writer.u32 capabilities.maxQueueCount.toNat
  let writer := writer.boolean capabilities.transceiverRequired
  writer.text capabilities.transceiverClass maxNameLength

def writeConfiguration (writer : ByteWriter) (configuration : PortConfiguration) : ByteWriter :=
  let writer := writer.writeId configuration.record
  let writer := writer.writeId configuration.port
  let writer := writer.writeId configuration.parentDevice
  let writer := writer.generation configuration.deviceGeneration
  let writer := writer.generation configuration.topologyGeneration
  let writer := writer.generation configuration.generation
  let writer := writer.u8 configuration.administrative.byte
  let writer := writer.u8 configuration.mode.byte
  let writer := writer.u8 configuration.protocol.byte
  let writer := writer.u8 configuration.speed.selection.byte
  let writer := writer.u64 configuration.speed.rate.bitsPerSecond
  let writer := writer.u8 configuration.duplex.byte
  let writer := writer.u32 configuration.mtu.value
  let writer := writer.u32 configuration.lanes.lanes
  let writer := writer.u64 configuration.lanes.perLane.bitsPerSecond
  let writer := writer.u8 configuration.breakout.byte
  let writer := writer.u8 configuration.autoneg.byte
  let writer := writer.u8 configuration.fec.byte
  let writer := writer.u8 configuration.pause.byte
  let writer := writer.boolean configuration.aggregation.member
  let writer := writer.writeId configuration.aggregation.aggregate
  let writer := writer.generation configuration.aggregation.generation
  let writer := writer.boolean configuration.aggregation.administrativeParticipation
  let writer := writer.boolean configuration.profile.bound
  let writer := writer.writeId configuration.profile.id
  let writer := writer.generation configuration.profile.generation
  let writer := writer.text configuration.role maxNameLength
  let writer := writer.writeId configuration.logicalIdentity
  let writer := writer.writeId configuration.derivedFrom
  let writer := writer.u32 configuration.childIndex.toNat
  let writer := writer.writeProvenance configuration.provenance
  let writer := writer.generation configuration.capabilityGeneration
  writer.generation configuration.evidenceGeneration

def writeOwnership (writer : ByteWriter) (ownership : PortOwnership) : ByteWriter :=
  let writer := writer.writeId ownership.id
  let writer := writer.u8 ownership.kind.byte
  let writer := writer.writeId ownership.owner
  let writer := writer.generation ownership.generation
  let writer := writer.writeId ownership.publisher
  let writer := writer.writeId ownership.boot
  let writer := writer.generation ownership.epoch
  writer.boolean ownership.exclusive

def writeCapabilityBinding (writer : ByteWriter) (binding : CapabilityBinding) : ByteWriter :=
  let writer := writer.boolean binding.present
  let writer := writer.generation binding.generation
  let writer := writer.generation binding.evidenceGeneration
  let writer := writer.writeId binding.evidence
  let writer := writer.text binding.source maxNameLength
  writer.writeCapabilities binding.capabilities

def writeGenerations (writer : ByteWriter) (generations : GenerationVector) : ByteWriter :=
  let writer := writer.generation generations.configuration
  let writer := writer.generation generations.administrative
  let writer := writer.generation generations.ownership
  let writer := writer.generation generations.capability
  let writer := writer.generation generations.topology
  let writer := writer.generation generations.device
  let writer := writer.generation generations.lifecycle
  writer.generation generations.evidence

def writeRecord (writer : ByteWriter) (record : PortRecord) : ByteWriter :=
  let writer := writer.writeId record.port
  let writer := writer.writeId record.parentDevice
  let writer := writer.u8 record.lifecycle.byte
  let writer := writer.boolean record.configuration.isSome
  let writer := record.configuration.elim writer writer.writeConfiguration
  let writer := writer.boolean record.ownership.isSome
  let writer := record.ownership.elim writer writer.writeOwnership
  let writer := writer.writeCapabilityBinding record.capability
  let writer := writer.u8 record.applied.outcome.byte
  let writer := writer.generation record.applied.generation
  let writer := writer.generation record.applied.evidenceGeneration
  let writer := writer.text record.applied.source maxNameLength
  let writer := writer.boolean record.applied.verified
  let writer := writer.u8 record.drift.byte
  let writer := writer.writeGenerations record.generations
  let writer := writer.writeProvenance record.provenance
  let writer := writer.writeId record.lastMutation.attempt
  let writer := writer.u64 record.lastMutation.payloadDigest.toNat
  let writer := writer.generation record.lastMutation.resultGeneration
  let writer := writer.text record.statusReason maxNameLength
  writer.text record.statusDetail maxDescriptionLength

def writeProfileConfiguration (writer : ByteWriter) (profile : ProfileConfiguration) :
    ByteWriter :=
  let writer := writer.boolean profile.specifiesSpeed
  let writer := writer.u8 profile.speed.selection.byte
  let writer := writer.u64 profile.speed.rate.bitsPerSecond
  let writer := writer.boolean profile.specifiesMtu
  let writer := writer.u32 profile.mtu.value
  let writer := writer.boolean profile.specifiesDuplex
  let writer := writer.u8 profile.duplex.byte
  let writer := writer.boolean profile.specifiesAutoneg
  let writer := writer.u8 profile.autoneg.byte
  let writer := writer.boolean profile.specifiesFec
  let writer := writer.u8 profile.fec.byte
  let writer := writer.boolean profile.specifiesPause
  let writer := writer.u8 profile.pause.byte
  let writer := writer.boolean profile.specifiesBreakout
  let writer := writer.u8 profile.breakout.byte
  let writer := writer.boolean profile.specifiesMode
  let writer := writer.u8 profile.mode.byte
  let writer := writer.boolean profile.specifiesProtocol
  let writer := writer.u8 profile.protocol.byte
  let writer := writer.boolean profile.specifiesAggregation
  let writer := writer.boolean profile.aggregateParticipation
  let writer := writer.boolean profile.specifiesRole
  writer.text profile.role maxNameLength

def writeProfile (writer : ByteWriter) (profile : PortProfile) : ByteWriter :=
  let writer := writer.writeId profile.id
  let writer := writer.generation profile.generation
  let writer := writer.text profile.name maxNameLength
  let writer := writer.text profile.description maxDescriptionLength
  let writer := writer.writeProfileConfiguration profile.configuration
  writer.writeProvenance profile.provenance

def writeDevice (writer : ByteWriter) (device : DeviceBinding) : ByteWriter :=
  ((writer.writeId device.device).generation device.generation).text device.source maxNameLength

def writePublisher (writer : ByteWriter) (publisher : PublisherRecord) : ByteWriter :=
  (((writer.writeId publisher.publisher).writeId publisher.boot).generation
    publisher.epoch).boolean publisher.fenced

def writeAuthority (writer : ByteWriter) (authority : AuthorityContext) : ByteWriter :=
  let writer := writer.generation authority.epoch
  let writer := writer.writeId authority.publisher
  let writer := writer.writeId authority.boot
  let writer := writer.writeId authority.ownership
  let writer := writer.generation authority.ownershipGeneration
  let writer := writer.generation authority.expectedConfiguration
  let writer := writer.generation authority.expectedCapability
  let writer := writer.generation authority.expectedTopology
  let writer := writer.generation authority.expectedDevice
  writer.writeId authority.attempt

def writeApplied (writer : ByteWriter) (evidence : AppliedEvidence) : ByteWriter :=
  let writer := writer.u8 evidence.outcome.byte
  let writer := writer.generation evidence.generation
  let writer := writer.generation evidence.evidenceGeneration
  let writer := writer.text evidence.source maxNameLength
  writer.boolean evidence.verified

end ByteWriter

end PortFabric
