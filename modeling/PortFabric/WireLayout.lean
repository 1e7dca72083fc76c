import PortFabric.CodecProperties
import PortFabric.WireReader

/-!
# Wire layouts

The layout of every wire value. The writer of a value emits its layout, and the
reader reads exactly the layouts of the values it accepts.
-/

set_option autoImplicit false

namespace PortFabric

open Formats

namespace ByteLayout

def id {domain : IdDomain} (id : StrongId domain) : ByteLayout :=
  text id.value maxIdentifierLength

def generation {domain : GenerationDomain} (value : Generation domain) : ByteLayout :=
  unsigned 8 value.value

def enum {α : Type} [WireEnum α] (value : α) : ByteLayout :=
  unsigned 1 (WireEnum.byte value)

def list {α : Type} (layout : α → ByteLayout) (values : List α) : ByteLayout :=
  unsigned 4 values.length ++ values.flatMap layout

def optional {α : Type} (layout : α → ByteLayout) (value : Option α) : ByteLayout :=
  boolean value.isSome ++ value.elim [] layout

def provenance (provenance : Provenance) : ByteLayout :=
  [ enum provenance.kind, text provenance.source maxNameLength, id provenance.publisher,
    id provenance.boot, generation provenance.epoch, id provenance.attempt ].flatten

def speed (speed : PortSpeed) : ByteLayout := unsigned 8 speed.bitsPerSecond

def mtu (mtu : Mtu) : ByteLayout := unsigned 4 mtu.value

def word (value : UInt32) : ByteLayout := unsigned 4 value.toNat

def lanes (lanes : LaneConfiguration) : ByteLayout :=
  [unsigned 4 lanes.lanes, speed lanes.perLane].flatten

def capabilities (capabilities : PortCapabilities) : ByteLayout :=
  [ enum capabilities.certainty, list speed capabilities.supportedSpeeds,
    list word capabilities.laneModes, word capabilities.maxLanes,
    boolean capabilities.breakoutSupported, word capabilities.maxBreakoutChildren,
    list enum capabilities.fecModes, list enum capabilities.autonegModes,
    list enum capabilities.pauseModes, list enum capabilities.protocolFamilies,
    word capabilities.capabilityMtuMin, word capabilities.capabilityMtuMax,
    enum capabilities.duplex, boolean capabilities.logicalInterfaceSupported,
    word capabilities.maxQueueCount, boolean capabilities.transceiverRequired,
    text capabilities.transceiverClass maxNameLength ].flatten

def configuration (configuration : PortConfiguration) : ByteLayout :=
  [ id configuration.record, id configuration.port, id configuration.parentDevice,
    generation configuration.deviceGeneration, generation configuration.topologyGeneration,
    generation configuration.generation, enum configuration.administrative,
    enum configuration.mode, enum configuration.protocol, enum configuration.speed.selection,
    speed configuration.speed.rate, enum configuration.duplex, mtu configuration.mtu,
    lanes configuration.lanes, enum configuration.breakout, enum configuration.autoneg,
    enum configuration.fec, enum configuration.pause, boolean configuration.aggregation.member,
    id configuration.aggregation.aggregate, generation configuration.aggregation.generation,
    boolean configuration.aggregation.administrativeParticipation,
    boolean configuration.profile.bound, id configuration.profile.id,
    generation configuration.profile.generation, text configuration.role maxNameLength,
    id configuration.logicalIdentity, id configuration.derivedFrom,
    word configuration.childIndex, provenance configuration.provenance,
    generation configuration.capabilityGeneration,
    generation configuration.evidenceGeneration ].flatten

def ownership (ownership : PortOwnership) : ByteLayout :=
  [ id ownership.id, enum ownership.kind, id ownership.owner, generation ownership.generation,
    id ownership.publisher, id ownership.boot, generation ownership.epoch,
    boolean ownership.exclusive ].flatten

def capabilityBinding (binding : CapabilityBinding) : ByteLayout :=
  [ boolean binding.present, generation binding.generation,
    generation binding.evidenceGeneration, id binding.evidence,
    text binding.source maxNameLength, capabilities binding.capabilities ].flatten

def generations (generations : GenerationVector) : ByteLayout :=
  [ generation generations.configuration, generation generations.administrative,
    generation generations.ownership, generation generations.capability,
    generation generations.topology, generation generations.device,
    generation generations.lifecycle, generation generations.evidence ].flatten

def record (record : PortRecord) : ByteLayout :=
  [ id record.port, id record.parentDevice, enum record.lifecycle,
    optional configuration record.configuration, optional ownership record.ownership,
    capabilityBinding record.capability, enum record.applied.outcome,
    generation record.applied.generation, generation record.applied.evidenceGeneration,
    text record.applied.source maxNameLength, boolean record.applied.verified,
    enum record.drift, generations record.generations, provenance record.provenance,
    id record.lastMutation.attempt, unsigned 8 record.lastMutation.payloadDigest.toNat,
    generation record.lastMutation.resultGeneration, text record.statusReason maxNameLength,
    text record.statusDetail maxDescriptionLength ].flatten

def profileConfiguration (profile : ProfileConfiguration) : ByteLayout :=
  [ boolean profile.specifiesSpeed, enum profile.speed.selection, speed profile.speed.rate,
    boolean profile.specifiesMtu, mtu profile.mtu, boolean profile.specifiesDuplex,
    enum profile.duplex, boolean profile.specifiesAutoneg, enum profile.autoneg,
    boolean profile.specifiesFec, enum profile.fec, boolean profile.specifiesPause,
    enum profile.pause, boolean profile.specifiesBreakout, enum profile.breakout,
    boolean profile.specifiesMode, enum profile.mode, boolean profile.specifiesProtocol,
    enum profile.protocol, boolean profile.specifiesAggregation,
    boolean profile.aggregateParticipation, boolean profile.specifiesRole,
    text profile.role maxNameLength ].flatten

def profile (profile : PortProfile) : ByteLayout :=
  [ id profile.id, generation profile.generation, text profile.name maxNameLength,
    text profile.description maxDescriptionLength, profileConfiguration profile.configuration,
    provenance profile.provenance ].flatten

def device (device : DeviceBinding) : ByteLayout :=
  [ id device.device, generation device.generation, text device.source maxNameLength ].flatten

def publisher (publisher : PublisherRecord) : ByteLayout :=
  [ id publisher.publisher, id publisher.boot, generation publisher.epoch,
    boolean publisher.fenced ].flatten

def authority (authority : AuthorityContext) : ByteLayout :=
  [ generation authority.epoch, id authority.publisher, id authority.boot,
    id authority.ownership, generation authority.ownershipGeneration,
    generation authority.expectedConfiguration, generation authority.expectedCapability,
    generation authority.expectedTopology, generation authority.expectedDevice,
    id authority.attempt ].flatten

def applied (evidence : AppliedEvidence) : ByteLayout :=
  [ enum evidence.outcome, generation evidence.generation,
    generation evidence.evidenceGeneration, text evidence.source maxNameLength,
    boolean evidence.verified ].flatten

end ByteLayout

/-! ## Writers -/

namespace ByteWriter

variable {α : Type} (writer : ByteWriter)

theorem writeId_eq_emit {domain : IdDomain} (id : StrongId domain) :
    writer.writeId id = writer.emit (ByteLayout.id id) :=
  text_eq_emit ..

theorem generation_eq_emit {domain : GenerationDomain} (value : Generation domain) :
    writer.generation value = writer.emit (ByteLayout.generation value) := rfl

theorem list_eq_emit {write : ByteWriter → α → ByteWriter} {layout : α → ByteLayout}
    (emits : ∀ writer value, write writer value = writer.emit (layout value)) (values : List α) :
    (writer.u32 values.length).each values write = writer.emit (ByteLayout.list layout values) := by
  rw [each_eq_emit emits, u32_eq_emit, ByteLayout.list, emit_append]

theorem optional_eq_emit {write : ByteWriter → α → ByteWriter} {layout : α → ByteLayout}
    (emits : ∀ writer value, write writer value = writer.emit (layout value))
    (value : Option α) :
    value.elim (writer.boolean value.isSome) (write (writer.boolean value.isSome)) =
      writer.emit (ByteLayout.optional layout value) := by
  cases value with
  | none => rfl
  | some value =>
      rw [Option.elim_some, emits, boolean_eq_emit, ByteLayout.optional, emit_append,
        Option.elim_some]

theorem writeProvenance_eq_emit (provenance : Provenance) :
    writer.writeProvenance provenance = writer.emit (ByteLayout.provenance provenance) := by
  simp only [writeProvenance, ByteLayout.provenance, List.flatten_cons, List.flatten_nil,
    emit_append, emit_nil, u8_eq_emit, text_eq_emit, writeId_eq_emit, generation_eq_emit]
  rfl

theorem writeCapabilities_eq_emit (capabilities : PortCapabilities) :
    writer.writeCapabilities capabilities =
      writer.emit (ByteLayout.capabilities capabilities) := by
  have speeds : ∀ (writer : ByteWriter) (values : List PortSpeed),
      (writer.u32 values.length).each values (fun w speed => w.u64 speed.bitsPerSecond) =
        writer.emit (ByteLayout.list ByteLayout.speed values) :=
    fun writer => writer.list_eq_emit fun _ _ => rfl
  have words : ∀ (writer : ByteWriter) (values : List UInt32),
      (writer.u32 values.length).each values (fun w value => w.u32 value.toNat) =
        writer.emit (ByteLayout.list ByteLayout.word values) :=
    fun writer => writer.list_eq_emit fun _ _ => rfl
  have fec : ∀ (writer : ByteWriter) (values : List FecMode),
      (writer.u32 values.length).each values (fun w mode => w.u8 mode.byte) =
        writer.emit (ByteLayout.list ByteLayout.enum values) :=
    fun writer => writer.list_eq_emit fun _ _ => rfl
  have autoneg : ∀ (writer : ByteWriter) (values : List AutonegPolicy),
      (writer.u32 values.length).each values (fun w policy => w.u8 policy.byte) =
        writer.emit (ByteLayout.list ByteLayout.enum values) :=
    fun writer => writer.list_eq_emit fun _ _ => rfl
  have pause : ∀ (writer : ByteWriter) (values : List PauseMode),
      (writer.u32 values.length).each values (fun w mode => w.u8 mode.byte) =
        writer.emit (ByteLayout.list ByteLayout.enum values) :=
    fun writer => writer.list_eq_emit fun _ _ => rfl
  have families : ∀ (writer : ByteWriter) (values : List ProtocolFamily),
      (writer.u32 values.length).each values (fun w family => w.u8 family.byte) =
        writer.emit (ByteLayout.list ByteLayout.enum values) :=
    fun writer => writer.list_eq_emit fun _ _ => rfl
  simp only [writeCapabilities, speeds, words, fec, autoneg, pause, families]
  simp only [ByteLayout.capabilities, List.flatten_cons, List.flatten_nil, emit_append, emit_nil,
    u8_eq_emit, u32_eq_emit, boolean_eq_emit, text_eq_emit]
  rfl

theorem writeConfiguration_eq_emit (configuration : PortConfiguration) :
    writer.writeConfiguration configuration =
      writer.emit (ByteLayout.configuration configuration) := by
  simp only [writeConfiguration, ByteLayout.configuration, ByteLayout.lanes, List.flatten_cons,
    List.flatten_nil, emit_append, emit_nil, u8_eq_emit, u32_eq_emit, u64_eq_emit,
    boolean_eq_emit, text_eq_emit, writeId_eq_emit, generation_eq_emit, writeProvenance_eq_emit]
  rfl

theorem writeOwnership_eq_emit (ownership : PortOwnership) :
    writer.writeOwnership ownership = writer.emit (ByteLayout.ownership ownership) := by
  simp only [writeOwnership, ByteLayout.ownership, List.flatten_cons, List.flatten_nil,
    emit_append, emit_nil, u8_eq_emit, boolean_eq_emit, writeId_eq_emit, generation_eq_emit]
  rfl

theorem writeCapabilityBinding_eq_emit (binding : CapabilityBinding) :
    writer.writeCapabilityBinding binding =
      writer.emit (ByteLayout.capabilityBinding binding) := by
  simp only [writeCapabilityBinding, ByteLayout.capabilityBinding, List.flatten_cons,
    List.flatten_nil, emit_append, emit_nil, boolean_eq_emit, text_eq_emit, writeId_eq_emit,
    generation_eq_emit, writeCapabilities_eq_emit]

theorem writeGenerations_eq_emit (generations : GenerationVector) :
    writer.writeGenerations generations = writer.emit (ByteLayout.generations generations) := by
  simp only [writeGenerations, ByteLayout.generations, List.flatten_cons, List.flatten_nil,
    emit_append, emit_nil, generation_eq_emit]

theorem writeRecord_eq_emit (record : PortRecord) :
    writer.writeRecord record = writer.emit (ByteLayout.record record) := by
  simp only [writeRecord, optional_eq_emit _ writeConfiguration_eq_emit,
    optional_eq_emit _ writeOwnership_eq_emit]
  simp only [ByteLayout.record, List.flatten_cons, List.flatten_nil, emit_append, emit_nil,
    u8_eq_emit, u64_eq_emit, boolean_eq_emit, text_eq_emit, writeId_eq_emit, generation_eq_emit,
    writeCapabilityBinding_eq_emit, writeGenerations_eq_emit, writeProvenance_eq_emit]
  rfl

theorem writeProfileConfiguration_eq_emit (profile : ProfileConfiguration) :
    writer.writeProfileConfiguration profile =
      writer.emit (ByteLayout.profileConfiguration profile) := by
  simp only [writeProfileConfiguration, ByteLayout.profileConfiguration, List.flatten_cons,
    List.flatten_nil, emit_append, emit_nil, u8_eq_emit, u32_eq_emit, u64_eq_emit,
    boolean_eq_emit, text_eq_emit]
  rfl

theorem writeProfile_eq_emit (profile : PortProfile) :
    writer.writeProfile profile = writer.emit (ByteLayout.profile profile) := by
  simp only [writeProfile, ByteLayout.profile, List.flatten_cons, List.flatten_nil, emit_append,
    emit_nil, text_eq_emit, writeId_eq_emit, generation_eq_emit,
    writeProfileConfiguration_eq_emit, writeProvenance_eq_emit]

theorem writeDevice_eq_emit (device : DeviceBinding) :
    writer.writeDevice device = writer.emit (ByteLayout.device device) := by
  simp only [writeDevice, ByteLayout.device, List.flatten_cons, List.flatten_nil, emit_append,
    emit_nil, text_eq_emit, writeId_eq_emit, generation_eq_emit]

theorem writePublisher_eq_emit (publisher : PublisherRecord) :
    writer.writePublisher publisher = writer.emit (ByteLayout.publisher publisher) := by
  simp only [writePublisher, ByteLayout.publisher, List.flatten_cons, List.flatten_nil,
    emit_append, emit_nil, boolean_eq_emit, writeId_eq_emit, generation_eq_emit]

theorem writeAuthority_eq_emit (authority : AuthorityContext) :
    writer.writeAuthority authority = writer.emit (ByteLayout.authority authority) := by
  simp only [writeAuthority, ByteLayout.authority, List.flatten_cons, List.flatten_nil,
    emit_append, emit_nil, writeId_eq_emit, generation_eq_emit]

theorem writeApplied_eq_emit (evidence : AppliedEvidence) :
    writer.writeApplied evidence = writer.emit (ByteLayout.applied evidence) := by
  simp only [writeApplied, ByteLayout.applied, List.flatten_cons, List.flatten_nil, emit_append,
    emit_nil, u8_eq_emit, boolean_eq_emit, text_eq_emit, generation_eq_emit]
  rfl

end ByteWriter

end PortFabric
