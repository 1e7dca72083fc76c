import PortFabric.Wire

/-!
# Wire decoding

The readers of every value the wire writers encode. Each reader checks what the
source checks where it checks it; several values are validated as a whole.
-/

set_option autoImplicit false

namespace PortFabric

/-- Bytes of an enumeration: `is_valid` accepts the cast of exactly the declared ones. -/
class WireEnum (α : Type) where
  byte : α → Nat
  isValid : α → Bool
  /-- The declared value of a byte. -/
  ofByte : Nat → Option α
  ofByte_eq_some : ∀ value raw, ofByte raw = some value ↔ isValid value = true ∧ byte value = raw
  byte_lt : ∀ value, isValid value = true → byte value < 256

def PortMode.ofByte : Nat → Option PortMode
  | 0 => some .physical | 1 => some .logical | _ => none

instance : WireEnum PortMode where
  byte := PortMode.byte
  isValid := PortMode.isValid
  ofByte := PortMode.ofByte
  ofByte_eq_some value raw := by
    constructor
    · intro found
      unfold PortMode.ofByte at found
      split at found <;> cases found <;> exact ⟨rfl, rfl⟩
    · intro given
      rcases given with ⟨valid, rfl⟩
      cases value <;> first | rfl | cases valid
  byte_lt value valid := by cases value <;> first | decide | cases valid

def ProtocolFamily.ofByte : Nat → Option ProtocolFamily
  | 0 => some .unknown | 1 => some .ethernet | 2 => some .infiniBand | 3 => some .fibreChannel
  | 4 => some .opticalTransport | 5 => some .overlay | 6 => some .synthetic | _ => none

instance : WireEnum ProtocolFamily where
  byte := ProtocolFamily.byte
  isValid := ProtocolFamily.isValid
  ofByte := ProtocolFamily.ofByte
  ofByte_eq_some value raw := by
    constructor
    · intro found
      unfold ProtocolFamily.ofByte at found
      split at found <;> cases found <;> exact ⟨rfl, rfl⟩
    · intro given
      rcases given with ⟨valid, rfl⟩
      cases value <;> first | rfl | cases valid
  byte_lt value valid := by cases value <;> first | decide | cases valid

def FecMode.ofByte : Nat → Option FecMode
  | 0 => some .unknown | 1 => some .unsupported | 2 => some .none | 3 => some .firecode
  | 4 => some .reedSolomon528 | 5 => some .reedSolomon544 | 6 => some .reedSolomon544Interleaved
  | 7 => some .reedSolomon272Interleaved | _ => Option.none

instance : WireEnum FecMode where
  byte := FecMode.byte
  isValid := FecMode.isValid
  ofByte := FecMode.ofByte
  ofByte_eq_some value raw := by
    constructor
    · intro found
      unfold FecMode.ofByte at found
      split at found <;> cases found <;> exact ⟨rfl, rfl⟩
    · intro given
      rcases given with ⟨valid, rfl⟩
      cases value <;> first | rfl | cases valid
  byte_lt value valid := by cases value <;> first | decide | cases valid

def DuplexMode.ofByte : Nat → Option DuplexMode
  | 0 => some .unknown | 1 => some .unsupported | 2 => some .half | 3 => some .full | _ => none

instance : WireEnum DuplexMode where
  byte := DuplexMode.byte
  isValid := DuplexMode.isValid
  ofByte := DuplexMode.ofByte
  ofByte_eq_some value raw := by
    constructor
    · intro found
      unfold DuplexMode.ofByte at found
      split at found <;> cases found <;> exact ⟨rfl, rfl⟩
    · intro given
      rcases given with ⟨valid, rfl⟩
      cases value <;> first | rfl | cases valid
  byte_lt value valid := by cases value <;> first | decide | cases valid

def AutonegPolicy.ofByte : Nat → Option AutonegPolicy
  | 0 => some .unknown | 1 => some .unsupported | 2 => some .forced | 3 => some .preferred
  | 4 => some .negotiated | _ => none

instance : WireEnum AutonegPolicy where
  byte := AutonegPolicy.byte
  isValid := AutonegPolicy.isValid
  ofByte := AutonegPolicy.ofByte
  ofByte_eq_some value raw := by
    constructor
    · intro found
      unfold AutonegPolicy.ofByte at found
      split at found <;> cases found <;> exact ⟨rfl, rfl⟩
    · intro given
      rcases given with ⟨valid, rfl⟩
      cases value <;> first | rfl | cases valid
  byte_lt value valid := by cases value <;> first | decide | cases valid

def PauseMode.ofByte : Nat → Option PauseMode
  | 0 => some .unknown | 1 => some .unsupported | 2 => some .disabled | 3 => some .transmit
  | 4 => some .receive | 5 => some .bidirectional | _ => none

instance : WireEnum PauseMode where
  byte := PauseMode.byte
  isValid := PauseMode.isValid
  ofByte := PauseMode.ofByte
  ofByte_eq_some value raw := by
    constructor
    · intro found
      unfold PauseMode.ofByte at found
      split at found <;> cases found <;> exact ⟨rfl, rfl⟩
    · intro given
      rcases given with ⟨valid, rfl⟩
      cases value <;> first | rfl | cases valid
  byte_lt value valid := by cases value <;> first | decide | cases valid

def BreakoutMode.ofByte : Nat → Option BreakoutMode
  | 0 => some .none | 1 => some .x2 | 2 => some .x4 | 3 => some .x8 | _ => Option.none

instance : WireEnum BreakoutMode where
  byte := BreakoutMode.byte
  isValid := BreakoutMode.isValid
  ofByte := BreakoutMode.ofByte
  ofByte_eq_some value raw := by
    constructor
    · intro found
      unfold BreakoutMode.ofByte at found
      split at found <;> cases found <;> exact ⟨rfl, rfl⟩
    · intro given
      rcases given with ⟨valid, rfl⟩
      cases value <;> first | rfl | cases valid
  byte_lt value valid := by cases value <;> first | decide | cases valid

def SpeedSelection.ofByte : Nat → Option SpeedSelection
  | 0 => some .auto | 1 => some .forced | _ => none

instance : WireEnum SpeedSelection where
  byte := SpeedSelection.byte
  isValid := SpeedSelection.isValid
  ofByte := SpeedSelection.ofByte
  ofByte_eq_some value raw := by
    constructor
    · intro found
      unfold SpeedSelection.ofByte at found
      split at found <;> cases found <;> exact ⟨rfl, rfl⟩
    · intro given
      rcases given with ⟨valid, rfl⟩
      cases value <;> first | rfl | cases valid
  byte_lt value valid := by cases value <;> first | decide | cases valid

def AdministrativeState.ofByte : Nat → Option AdministrativeState
  | 0 => some .unknown | 1 => some .enabled | 2 => some .disabled | 3 => some .draining
  | 4 => some .maintenance | 5 => some .revalidationRequired | _ => none

instance : WireEnum AdministrativeState where
  byte := AdministrativeState.byte
  isValid := AdministrativeState.isValid
  ofByte := AdministrativeState.ofByte
  ofByte_eq_some value raw := by
    constructor
    · intro found
      unfold AdministrativeState.ofByte at found
      split at found <;> cases found <;> exact ⟨rfl, rfl⟩
    · intro given
      rcases given with ⟨valid, rfl⟩
      cases value <;> first | rfl | cases valid
  byte_lt value valid := by cases value <;> first | decide | cases valid

def PortLifecycle.ofByte : Nat → Option PortLifecycle
  | 0 => some .unconfigured | 1 => some .configured | 2 => some .active | 3 => some .adminDisabled
  | 4 => some .draining | 5 => some .maintenance | 6 => some .revalidationRequired
  | 7 => some .superseded | 8 => some .retired | 9 => some .conflicted | _ => none

instance : WireEnum PortLifecycle where
  byte := PortLifecycle.byte
  isValid := PortLifecycle.isValid
  ofByte := PortLifecycle.ofByte
  ofByte_eq_some value raw := by
    constructor
    · intro found
      unfold PortLifecycle.ofByte at found
      split at found <;> cases found <;> exact ⟨rfl, rfl⟩
    · intro given
      rcases given with ⟨_, rfl⟩
      cases value <;> rfl
  byte_lt value _ := by cases value <;> decide

def CapabilityCertainty.ofByte : Nat → Option CapabilityCertainty
  | 0 => some .unknown | 1 => some .known | 2 => some .partially | _ => none

instance : WireEnum CapabilityCertainty where
  byte := CapabilityCertainty.byte
  isValid := CapabilityCertainty.isValid
  ofByte := CapabilityCertainty.ofByte
  ofByte_eq_some value raw := by
    constructor
    · intro found
      unfold CapabilityCertainty.ofByte at found
      split at found <;> cases found <;> exact ⟨rfl, rfl⟩
    · intro given
      rcases given with ⟨valid, rfl⟩
      cases value <;> first | rfl | cases valid
  byte_lt value valid := by cases value <;> first | decide | cases valid

def ProvenanceKind.ofByte : Nat → Option ProvenanceKind
  | 0 => some .unknown | 1 => some .operator | 2 => some .networkController
  | 3 => some .switchAgent | 4 => some .hostAgent | 5 => some .delegatedSubsystem
  | 6 => some .syntheticBackend | 7 => some .hostAdapter | 8 => some .recovery
  | 9 => some .reconciliation | _ => none

instance : WireEnum ProvenanceKind where
  byte := ProvenanceKind.byte
  isValid := ProvenanceKind.isValid
  ofByte := ProvenanceKind.ofByte
  ofByte_eq_some value raw := by
    constructor
    · intro found
      unfold ProvenanceKind.ofByte at found
      split at found <;> cases found <;> exact ⟨rfl, rfl⟩
    · intro given
      rcases given with ⟨valid, rfl⟩
      cases value <;> first | rfl | cases valid
  byte_lt value valid := by cases value <;> first | decide | cases valid

def PortOwnerKind.ofByte : Nat → Option PortOwnerKind
  | 0 => some .unknown | 1 => some .switchAgent | 2 => some .hostAgent
  | 3 => some .networkController | 4 => some .administrativeControlPlane
  | 5 => some .delegatedSubsystem | _ => none

instance : WireEnum PortOwnerKind where
  byte := PortOwnerKind.byte
  isValid := PortOwnerKind.isValid
  ofByte := PortOwnerKind.ofByte
  ofByte_eq_some value raw := by
    constructor
    · intro found
      unfold PortOwnerKind.ofByte at found
      split at found <;> cases found <;> exact ⟨rfl, rfl⟩
    · intro given
      rcases given with ⟨valid, rfl⟩
      cases value <;> first | rfl | cases valid
  byte_lt value valid := by cases value <;> first | decide | cases valid

def AppliedOutcome.ofByte : Nat → Option AppliedOutcome
  | 0 => some .notAttempted | 1 => some .applied | 2 => some .applyFailed
  | 3 => some .outcomeUnknown | 4 => some .verified | 5 => some .unsupported | _ => none

instance : WireEnum AppliedOutcome where
  byte := AppliedOutcome.byte
  isValid := AppliedOutcome.isValid
  ofByte := AppliedOutcome.ofByte
  ofByte_eq_some value raw := by
    constructor
    · intro found
      unfold AppliedOutcome.ofByte at found
      split at found <;> cases found <;> exact ⟨rfl, rfl⟩
    · intro given
      rcases given with ⟨valid, rfl⟩
      cases value <;> first | rfl | cases valid
  byte_lt value valid := by cases value <;> first | decide | cases valid

def DriftState.ofByte : Nat → Option DriftState
  | 0 => some .unknown | 1 => some .inSync | 2 => some .drifted | 3 => some .revalidationRequired
  | 4 => some .conflicted | _ => none

instance : WireEnum DriftState where
  byte := DriftState.byte
  isValid := DriftState.isValid
  ofByte := DriftState.ofByte
  ofByte_eq_some value raw := by
    constructor
    · intro found
      unfold DriftState.ofByte at found
      split at found <;> cases found <;> exact ⟨rfl, rfl⟩
    · intro given
      rcases given with ⟨valid, rfl⟩
      cases value <;> first | rfl | cases valid
  byte_lt value valid := by cases value <;> first | decide | cases valid

def StrongId.parse {domain : IdDomain} (value : Text) : Option (StrongId domain) :=
  if validateIdentifier value = .ok then some (.fromValidated value) else none

/-- A parsed identifier keeps the text it was parsed from. -/
theorem StrongId.parse_eq_some {domain : IdDomain} {value : Text} {id : StrongId domain} :
    parse value = some id ↔ validateIdentifier value = .ok ∧ id.value = value := by
  unfold parse fromValidated
  split
  · next accepted =>
      rw [Option.some_inj]
      constructor
      · intro same
        exact ⟨accepted, same ▸ rfl⟩
      · intro held
        exact StrongId.ext held.2.symm
  · next refused =>
      exact iff_of_false (Option.some_ne_none id).symm fun held => refused held.1

def Generation.fromValue {domain : GenerationDomain} (value : UInt64) : Generation domain :=
  ⟨value.toNat, Nat.le_of_lt_succ value.toNat_lt⟩

namespace ByteReader

/-- An empty encoding is the null identifier. -/
def readStrongId {domain : IdDomain} : ByteReader (StrongId domain) :=
  (text maxIdentifierLength).convert
    (fun value => if value.isEmpty then some .null else StrongId.parse value) ()

def generation {domain : GenerationDomain} : ByteReader (Generation domain) := do
  return .fromValue (← u64)

def readEnum {α : Type} [WireEnum α] : ByteReader α :=
  u8.convert (fun raw => WireEnum.ofByte raw.toNat) ()

/-- Every element occupies at least one byte, so a count over the remaining input is refused. -/
def readBoundedCount (limit : Nat) : ByteReader Nat := do
  let count ← u32
  let remaining ← get
  if count.toNat > limit then
    fail
  else if count.toNat > remaining.length then
    fail
  else
    return count.toNat

def readList {α : Type} (limit : Nat) (read : ByteReader α) : ByteReader (List α) := do
  read.times (← readBoundedCount limit)

/-- What is left to do once every field is read: the value is checked as a whole. -/
def accept {α : Type} (value : α) (accepted : Bool) : ByteReader α :=
  if accepted then return value else fail

def readProvenance : ByteReader Provenance := do
  let kind ← readEnum
  let source ← text maxNameLength
  let publisher ← readStrongId
  let boot ← readStrongId
  let epoch ← generation
  let attempt ← readStrongId
  return { kind, source, publisher, boot, epoch, attempt }

def readSpeed : ByteReader PortSpeed :=
  u64.convert (fun bits => PortSpeed.fromBitsPerSecond bits.toNat) ()

/-- A zero rate is the unspecified one. -/
def readRate : ByteReader PortSpeed :=
  u64.convert
    (fun bits =>
      if bits = 0 then some .unspecified else PortSpeed.fromBitsPerSecond bits.toNat) ()

def readMtu : ByteReader Mtu :=
  u32.convert (fun value => Mtu.create value.toNat) ()

def readLanes : ByteReader LaneConfiguration := do
  let lanes ← u32
  let perLane ← readSpeed
  match LaneConfiguration.create lanes.toNat perLane with
  | some configuration => return configuration
  | none => fail

def readCapabilities : ByteReader PortCapabilities := do
  let certainty ← readEnum
  let supportedSpeeds ← readList maxCapabilityEntries readSpeed
  let laneModes ← readList maxModeEntries u32
  let maxLanes ← u32
  let breakoutSupported ← boolean
  let maxBreakoutChildren ← u32
  let fecModes ← readList maxModeEntries readEnum
  let autonegModes ← readList maxModeEntries readEnum
  let pauseModes ← readList maxModeEntries readEnum
  let protocolFamilies ← readList maxModeEntries readEnum
  let capabilityMtuMin ← u32
  let capabilityMtuMax ← u32
  let duplex ← readEnum
  let logicalInterfaceSupported ← boolean
  let maxQueueCount ← u32
  let transceiverRequired ← boolean
  let transceiverClass ← text maxNameLength
  let capabilities : PortCapabilities :=
    { certainty, supportedSpeeds, laneModes, maxLanes, breakoutSupported, maxBreakoutChildren,
      fecModes, autonegModes, pauseModes, protocolFamilies, capabilityMtuMin, capabilityMtuMax,
      duplex, logicalInterfaceSupported, maxQueueCount, transceiverRequired, transceiverClass }
  accept capabilities capabilities.validate.isOk

/-- A configuration is a proposal: only its fields are checked here, not the whole. -/
def readConfiguration : ByteReader PortConfiguration := do
  let record ← readStrongId
  let port ← readStrongId
  let parentDevice ← readStrongId
  let deviceGeneration ← generation
  let topologyGeneration ← generation
  let configurationGeneration ← generation
  let administrative ← readEnum
  let mode ← readEnum
  let protocol ← readEnum
  let selection ← readEnum
  let rate ← readRate
  let duplex ← readEnum
  let mtu ← readMtu
  let lanes ← readLanes
  let breakout ← readEnum
  let autoneg ← readEnum
  let fec ← readEnum
  let pause ← readEnum
  let member ← boolean
  let aggregate ← readStrongId
  let membership ← generation
  let administrativeParticipation ← boolean
  let bound ← boolean
  let profile ← readStrongId
  let profileGeneration ← generation
  let role ← text maxNameLength
  let logicalIdentity ← readStrongId
  let derivedFrom ← readStrongId
  let childIndex ← u32
  let provenance ← readProvenance
  let capabilityGeneration ← generation
  let evidenceGeneration ← generation
  return {
    record, port, parentDevice, deviceGeneration, topologyGeneration
    generation := configurationGeneration
    administrative, mode, protocol
    speed := { selection, rate }
    duplex, mtu, lanes, breakout, autoneg, fec, pause
    aggregation := { member, aggregate, generation := membership, administrativeParticipation }
    profile := { bound, id := profile, generation := profileGeneration }
    role, logicalIdentity, derivedFrom, childIndex, provenance, capabilityGeneration
    evidenceGeneration }

def readOwnership : ByteReader PortOwnership := do
  let id ← readStrongId
  let kind ← readEnum
  let owner ← readStrongId
  let ownershipGeneration ← generation
  let publisher ← readStrongId
  let boot ← readStrongId
  let epoch ← generation
  let exclusive ← boolean
  let ownership : PortOwnership :=
    { id, kind, owner, generation := ownershipGeneration, publisher, boot, epoch, exclusive }
  accept ownership ownership.valid

def readCapabilityBinding : ByteReader CapabilityBinding := do
  let present ← boolean
  let bindingGeneration ← generation
  let evidenceGeneration ← generation
  let evidence ← readStrongId
  let source ← text maxNameLength
  let capabilities ← readCapabilities
  let binding : CapabilityBinding :=
    { present, generation := bindingGeneration, evidenceGeneration, evidence, source,
      capabilities }
  accept binding binding.valid

def readGenerations : ByteReader GenerationVector := do
  let configuration ← generation
  let administrative ← generation
  let ownership ← generation
  let capability ← generation
  let topology ← generation
  let device ← generation
  let lifecycle ← generation
  let evidence ← generation
  return { configuration, administrative, ownership, capability, topology, device, lifecycle,
           evidence }

def readRecord : ByteReader PortRecord := do
  let port ← readStrongId
  let parentDevice ← readStrongId
  let lifecycle ← readEnum
  let configuration ← boolean.optional readConfiguration
  let ownership ← boolean.optional readOwnership
  let capability ← readCapabilityBinding
  let outcome ← readEnum
  let appliedGeneration ← generation
  let evidenceGeneration ← generation
  let source ← text maxNameLength
  let verified ← boolean
  let drift ← readEnum
  let generations ← readGenerations
  let provenance ← readProvenance
  let attempt ← readStrongId
  let payloadDigest ← u64
  let resultGeneration ← generation
  let statusReason ← text maxNameLength
  let statusDetail ← text maxDescriptionLength
  let record : PortRecord :=
    { port, parentDevice, lifecycle, configuration, ownership, capability
      applied :=
        { outcome, generation := appliedGeneration, evidenceGeneration, source, verified }
      drift, generations, provenance
      lastMutation := { attempt, payloadDigest, resultGeneration }
      statusReason, statusDetail }
  accept record record.validate.isOk

/-- The MTU of a profile: the field is zero unless the profile specifies it. -/
def readProfileMtu (specified : Bool) : ByteReader Mtu :=
  if specified then
    readMtu
  else
    u32.convert (fun value => if value = 0 then some .unspecified else none) ()

def readProfileConfiguration : ByteReader ProfileConfiguration := do
  let specifiesSpeed ← boolean
  let selection ← readEnum
  let rate ← readRate
  let specifiesMtu ← boolean
  let mtu ← readProfileMtu specifiesMtu
  let specifiesDuplex ← boolean
  let duplex ← readEnum
  let specifiesAutoneg ← boolean
  let autoneg ← readEnum
  let specifiesFec ← boolean
  let fec ← readEnum
  let specifiesPause ← boolean
  let pause ← readEnum
  let specifiesBreakout ← boolean
  let breakout ← readEnum
  let specifiesMode ← boolean
  let mode ← readEnum
  let specifiesProtocol ← boolean
  let protocol ← readEnum
  let specifiesAggregation ← boolean
  let aggregateParticipation ← boolean
  let specifiesRole ← boolean
  let role ← text maxNameLength
  let configuration : ProfileConfiguration :=
    { specifiesSpeed, speed := { selection, rate }, specifiesMtu, mtu, specifiesDuplex, duplex,
      specifiesAutoneg, autoneg, specifiesFec, fec, specifiesPause, pause, specifiesBreakout,
      breakout, specifiesMode, mode, specifiesProtocol, protocol, specifiesAggregation,
      aggregateParticipation, specifiesRole, role }
  accept configuration configuration.validate.isOk

def readProfile : ByteReader PortProfile := do
  let id ← readStrongId
  let profileGeneration ← generation
  let name ← text maxNameLength
  let description ← text maxDescriptionLength
  let configuration ← readProfileConfiguration
  let provenance ← readProvenance
  let profile : PortProfile :=
    { id, generation := profileGeneration, name, description, configuration, provenance }
  accept profile profile.validate.isOk

def readDevice : ByteReader DeviceBinding := do
  let device ← readStrongId
  let deviceGeneration ← generation
  let source ← text maxNameLength
  let binding : DeviceBinding := { device, generation := deviceGeneration, source }
  accept binding (binding.device.valid && binding.generation.valid)

def readPublisher : ByteReader PublisherRecord := do
  let publisher ← readStrongId
  let boot ← readStrongId
  let epoch ← generation
  let fenced ← boolean
  let record : PublisherRecord := { publisher, boot, epoch, fenced }
  accept record (record.publisher.valid && record.boot.valid)

def readAuthority : ByteReader AuthorityContext := do
  let epoch ← generation
  let publisher ← readStrongId
  let boot ← readStrongId
  let ownership ← readStrongId
  let ownershipGeneration ← generation
  let expectedConfiguration ← generation
  let expectedCapability ← generation
  let expectedTopology ← generation
  let expectedDevice ← generation
  let attempt ← readStrongId
  return { epoch, publisher, boot, ownership, ownershipGeneration, expectedConfiguration,
           expectedCapability, expectedTopology, expectedDevice, attempt }

def readApplied : ByteReader AppliedEvidence := do
  let outcome ← readEnum
  let appliedGeneration ← generation
  let evidenceGeneration ← generation
  let source ← text maxNameLength
  let verified ← boolean
  return { outcome, generation := appliedGeneration, evidenceGeneration, source, verified }

end ByteReader

end PortFabric
