import PortFabric.Checksum
import PortFabric.PersistenceReader
import PortFabric.WireProperties

/-!
# Properties of the container codec

The encoder and the decoder of the durable state speak of one layout of the
payload and of one sealed container around it; they differ in which states they
let through.
-/

set_option autoImplicit false

namespace PortFabric

open Formats

/-! ## Containers -/

/-- What stands in the header in front of the payload checksum. -/
def containerFront (payload : Text) : Text :=
  persistenceMagic ++ littleEndian 4 persistenceFormatVersion ++ littleEndian 4 headerSize ++
    littleEndian 8 payload.length

/-- The container of a payload. -/
def container (payload : Text) : Text :=
  Sealing.document checksum (containerFront payload) payload

theorem length_persistenceMagic : persistenceMagic.length = 8 := by
  decide

@[simp] theorem length_containerFront (payload : Text) :
    (containerFront payload).length = 24 := by
  simp only [containerFront, List.length_append, length_littleEndian, length_persistenceMagic]

theorem length_containerHead (payload : Text) :
    (Sealing.head checksum (containerFront payload) payload).length = 28 := by
  rw [Sealing.head, List.length_append, length_containerFront, detects_checksum.length]

theorem length_container (payload : Text) :
    (container payload).length = headerSize + payload.length := by
  rw [container, Sealing.length_document detects_checksum, length_containerFront]
  rfl

/-- The front tells the length of the payload. -/
theorem length_of_containerFront {payload other : Text} (bounded : payload.length < 2 ^ 64)
    (below : other.length < 2 ^ 64) (same : containerFront payload = containerFront other) :
    payload.length = other.length := by
  obtain ⟨_, same⟩ := List.append_inj' same (by rw [length_littleEndian, length_littleEndian])
  exact littleEndian_inj bounded below same

/-- The header in front of its own checksum, piece by piece. -/
def ByteLayout.containerHeader (payload : Text) : ByteLayout :=
  [ [some persistenceMagic], unsigned 4 persistenceFormatVersion, unsigned 4 headerSize,
    unsigned 8 payload.length, unsigned 4 (crc32 payload).toNat ].flatten

theorem document_containerHeader (payload : Text) :
    (ByteLayout.containerHeader payload).document =
      some (Sealing.head checksum (containerFront payload) payload) := by
  simp [ByteLayout.containerHeader, Layout.document, ByteLayout.unsigned, Sealing.head,
    containerFront, checksum]

/-- The header writer succeeds, whatever the payload is. -/
theorem encodeHeader_eq (payload : Text) :
    encodeHeader payload =
      { out := Sealing.head checksum (containerFront payload) payload, limit := headerSize } := by
  have sound : ({ limit := headerSize } : ByteWriter).Sound := ⟨rfl, Nat.zero_le _⟩
  have room : 0 + (Sealing.head checksum (containerFront payload) payload).length ≤
      headerSize := by
    rw [length_containerHead]
    decide
  have emits : encodeHeader payload =
      ({ limit := headerSize } : ByteWriter).emit (ByteLayout.containerHeader payload) := by
    simp only [encodeHeader, ByteLayout.containerHeader, List.flatten_cons, List.flatten_nil,
      ByteWriter.emit_append, ByteWriter.emit_nil, ByteWriter.raw_eq_emit,
      ByteWriter.u32_eq_emit, ByteWriter.u64_eq_emit]
  rw [emits, sound.emit_eq (document_containerHeader payload) room]
  rfl

namespace ContainerFields

/-- The bytes of the fields in front of the header checksum. -/
def bytes (fields : ContainerFields) : Text :=
  fields.magic ++ littleEndian 4 fields.version.toNat ++ littleEndian 4 fields.headerSize.toNat ++
    littleEndian 8 fields.payloadLength.toNat ++ littleEndian 4 fields.payloadCrc.toNat

theorem length_bytes {fields : ContainerFields} (magic : fields.magic.length = 8) :
    fields.bytes.length = 28 := by
  simp only [bytes, List.length_append, length_littleEndian, magic]

/-- The fields are read from exactly their own bytes. -/
theorem run_readContainerFields {fields : ContainerFields} {input rest : Text} :
    readContainerFields.run input = .ok (fields, rest) ↔
      fields.magic.length = 8 ∧
        input = fields.bytes ++ littleEndian 4 fields.headerCrc.toNat ++ rest := by
  have reads : Reads (fun _ => True) readContainerFields
      (fun fields : ContainerFields => [ [some fields.magic],
        ByteLayout.unsigned 4 fields.version.toNat, ByteLayout.unsigned 4 fields.headerSize.toNat,
        ByteLayout.unsigned 8 fields.payloadLength.toNat,
        ByteLayout.unsigned 4 fields.payloadCrc.toNat,
        ByteLayout.unsigned 4 fields.headerCrc.toNat ].flatten)
      (fun fields => fields.magic.length = persistenceMagic.length ∧ True) := by
    unfold readContainerFields
    refine .field ContainerFields.magic (ByteReader.reads_raw _) fun _ => ?_
    refine .free ContainerFields.version ByteReader.reads_u32 fun _ => ?_
    refine .free ContainerFields.headerSize ByteReader.reads_u32 fun _ => ?_
    refine .free ContainerFields.payloadLength ByteReader.reads_u64 fun _ => ?_
    refine .free ContainerFields.payloadCrc ByteReader.reads_u32 fun _ => ?_
    refine .free ContainerFields.headerCrc ByteReader.reads_u32 fun _ => ?_
    refine .done fun value => ?_
    cases value
    simp [and_assoc, eq_comm]
  rw [reads, length_persistenceMagic]
  simp [ByteLayout.unsigned, Layout.document, bytes]

/-- The fields of the container of a payload. -/
def ofPayload (payload : Text) : ContainerFields where
  magic := persistenceMagic
  version := UInt32.ofNat persistenceFormatVersion
  headerSize := UInt32.ofNat PortFabric.headerSize
  payloadLength := UInt64.ofNat payload.length
  payloadCrc := crc32 payload
  headerCrc := crc32 (Sealing.head checksum (containerFront payload) payload)

theorem run_ofPayload {payload : Text} (bounded : payload.length < 2 ^ 64) :
    readContainerFields.run (Sealing.head checksum (containerFront payload) payload ++
        checksum (Sealing.head checksum (containerFront payload) payload)) =
      .ok (ofPayload payload, []) := by
  have length : (UInt64.ofNat payload.length).toNat = payload.length :=
    UInt64.toNat_ofNat_of_lt' bounded
  refine run_readContainerFields.mpr ⟨length_persistenceMagic, ?_⟩
  rw [bytes, ofPayload, length, List.append_nil]
  rfl

end ContainerFields

/-- The decoder opens exactly the containers of bounded payloads. -/
theorem decodeContainer_eq_ok {bytes payload : Text} :
    decodeContainer bytes = .ok payload ↔
      payload.length ≤ maxPersistenceBytes ∧ bytes = container payload := by
  constructor
  · intro decoded
    simp only [decodeContainer, Checks.refuseIf_eq_ok, Checks.require_eq_ok, decide_eq_true_eq,
      decide_eq_false_iff_not, Nat.not_lt] at decoded
    obtain ⟨size, magic, decoded⟩ := decoded
    split at decoded
    · cases decoded
    · next fields rest read =>
        simp only [Checks.require_eq_ok, Checks.refuseIf_eq_ok, decide_eq_true_eq,
          decide_eq_false_iff_not, Nat.not_lt, gt_iff_lt] at decoded
        obtain ⟨header, integrity, version, bounded, length, sound, made⟩ := decoded
        cases made
        obtain ⟨eight, front⟩ := ContainerFields.run_readContainerFields.mp read
        have twentyEight := ContainerFields.length_bytes eight
        have empty : rest = [] := by
          have taken := congrArg List.length front
          rw [List.length_take_of_le size] at taken
          simp only [List.length_append, length_littleEndian, twentyEight, headerSize] at taken
          exact List.length_eq_zero_iff.mp (by omega)
        rw [empty, List.append_nil] at front
        have payload : (bytes.drop headerSize).length = fields.payloadLength.toNat := by
          rw [length, List.length_drop]
        have lead : fields.magic = persistenceMagic := by
          rw [← magic, length_persistenceMagic]
          have first : bytes.take 8 = (bytes.take headerSize).take 8 := by
            rw [List.take_take]
            rfl
          rw [first, front]
          simp only [ContainerFields.bytes, List.append_assoc]
          exact (List.take_left' eight).symm
        have sealed : bytes.take (headerSize - 4) = fields.bytes := by
          have first : bytes.take (headerSize - 4) = (bytes.take headerSize).take 28 := by
            rw [List.take_take]
            rfl
          rw [first, front]
          exact List.take_left' twentyEight
        have head : fields.bytes =
            Sealing.head checksum (containerFront (bytes.drop headerSize))
              (bytes.drop headerSize) := by
          rw [ContainerFields.bytes, lead, version, header, ← payload, ← sound]
          rfl
        refine ⟨payload ▸ bounded, ?_⟩
        rw [container, Sealing.document, ← head, checksum, ← sealed, integrity, sealed, ← front,
          List.take_append_drop]
  · intro given
    rcases given with ⟨bounded, rfl⟩
    have narrow : payload.length < 2 ^ 64 := Nat.lt_of_le_of_lt bounded (by decide)
    have word : (UInt64.ofNat payload.length).toNat = payload.length :=
      UInt64.toNat_ofNat_of_lt' narrow
    have sealed := length_containerHead payload
    have header : (Sealing.head checksum (containerFront payload) payload ++
        checksum (Sealing.head checksum (containerFront payload) payload)).length =
          headerSize := by
      rw [List.length_append, sealed, detects_checksum.length]
      rfl
    have taken : (container payload).take headerSize =
        Sealing.head checksum (containerFront payload) payload ++
          checksum (Sealing.head checksum (containerFront payload) payload) :=
      List.take_left' header
    have dropped : (container payload).drop headerSize = payload := List.drop_left' header
    have front : (container payload).take (headerSize - 4) =
        Sealing.head checksum (containerFront payload) payload := by
      rw [container, Sealing.document, List.append_assoc]
      exact List.take_left' sealed
    have magic : (container payload).take persistenceMagic.length = persistenceMagic := by
      simp only [container, Sealing.document, Sealing.head, containerFront, List.append_assoc]
      exact List.take_left
    have size := length_container payload
    simp only [decodeContainer, Checks.refuseIf_eq_ok, Checks.require_eq_ok, taken,
      ContainerFields.run_ofPayload narrow, dropped, front, magic, size, decide_true, true_and]
    refine ⟨decide_eq_false (by omega), decide_eq_true rfl, decide_eq_true rfl,
      decide_eq_true rfl, decide_eq_false ?_, decide_eq_true ?_, decide_eq_true rfl, trivial⟩
    · rw [ContainerFields.ofPayload, word]
      exact Nat.not_lt.mpr bounded
    · rw [ContainerFields.ofPayload, word]
      omega

/-! ## Payloads -/

def ByteLayout.state (state : PersistedState) : ByteLayout :=
  [ id state.fabric, id state.site, generation state.epoch, generation state.engineGeneration,
    generation state.topology, list record state.records, list profile state.profiles,
    list device state.devices, list publisher state.publishers ].flatten

/-- What the encoder checks of a state, apart from its size. -/
structure PersistedState.Writable (state : PersistedState) : Prop where
  records : state.records.length ≤ maxPersistedRecords
  consistent : ∀ record ∈ state.records, record.validate = .ok ()
  profiles : state.profiles.length ≤ maxProfiles
  legal : ∀ profile ∈ state.profiles, profile.validate = .ok ()
  devices : state.devices.length ≤ maxDevices
  publishers : state.publishers.length ≤ maxPublishers

section Writing

variable {state : PersistedState} {writer written : ByteWriter}

/-- All values are written when all of them are valid, and none is left out. -/
theorem writeValidated_eq_ok {α : Type} {validate : α → Except Text Unit} {code : OutcomeCode}
    {prefixText : Text} {write : ByteWriter → α → ByteWriter} {values : List α} :
    writeValidated validate code prefixText write writer values = .ok written ↔
      (∀ value ∈ values, validate value = .ok ()) ∧ writer.each values write = written := by
  induction values generalizing writer with
  | nil => simp [writeValidated, ByteWriter.each]
  | cons value others ih =>
      simp only [writeValidated, List.forall_mem_cons]
      split
      · next refused => simp [refused]
      · next valid =>
          rw [ih, valid]
          exact ⟨fun ⟨others, wrote⟩ => ⟨⟨rfl, others⟩, wrote⟩,
            fun ⟨⟨_, others⟩, wrote⟩ => ⟨others, wrote⟩⟩

/-- An accepted state is written as its layout. -/
theorem encodePayload_eq_emit :
    encodePayload state = .ok writer ↔
      state.Writable ∧ writer.ok = true ∧
        ({ limit := payloadLimit } : ByteWriter).emit (ByteLayout.state state) = writer := by
  have records := fun writer : ByteWriter =>
    writer.list_eq_emit (fun writer => writer.writeRecord_eq_emit) state.records
  have profiles := fun writer : ByteWriter =>
    writer.list_eq_emit (fun writer => writer.writeProfile_eq_emit) state.profiles
  have devices := fun writer : ByteWriter =>
    writer.list_eq_emit (fun writer => writer.writeDevice_eq_emit) state.devices
  have publishers := fun writer : ByteWriter =>
    writer.list_eq_emit (fun writer => writer.writePublisher_eq_emit) state.publishers
  simp only [ByteLayout.state, List.flatten_cons, List.flatten_nil, ByteWriter.emit_append,
    ByteWriter.emit_nil]
  constructor
  · intro accepted
    simp only [encodePayload, ByteWriter.writeId_eq_emit, ByteWriter.generation_eq_emit]
      at accepted
    split at accepted
    · cases accepted
    rename_i fewRecords
    split at accepted
    · cases accepted
    rename_i wroteRecords
    obtain ⟨consistent, rfl⟩ := writeValidated_eq_ok.mp wroteRecords
    split at accepted
    · cases accepted
    rename_i fewProfiles
    split at accepted
    · cases accepted
    rename_i wroteProfiles
    obtain ⟨legal, rfl⟩ := writeValidated_eq_ok.mp wroteProfiles
    split at accepted
    · cases accepted
    rename_i fewDevices
    split at accepted
    · cases accepted
    rename_i fewPublishers
    split at accepted
    · next sound =>
        cases accepted
        refine ⟨⟨Nat.not_lt.mp fewRecords, consistent, Nat.not_lt.mp fewProfiles, legal,
          Nat.not_lt.mp fewDevices, Nat.not_lt.mp fewPublishers⟩, sound, ?_⟩
        rw [records, profiles, devices, publishers]
    · cases accepted
  · intro given
    rcases given with ⟨writable, sound, rfl⟩
    have wroteRecords : ∀ writer, writeValidated PortRecord.validate .invalidConfiguration
        "a record is inconsistent: " ByteWriter.writeRecord writer state.records =
          .ok (writer.each state.records ByteWriter.writeRecord) :=
      fun _ => writeValidated_eq_ok.mpr ⟨writable.consistent, rfl⟩
    have wroteProfiles : ∀ writer, writeValidated PortProfile.validate .invalidProfile
        "a profile is inconsistent: " ByteWriter.writeProfile writer state.profiles =
          .ok (writer.each state.profiles ByteWriter.writeProfile) :=
      fun _ => writeValidated_eq_ok.mpr ⟨writable.legal, rfl⟩
    simp only [encodePayload, ByteWriter.writeId_eq_emit, ByteWriter.generation_eq_emit,
      wroteRecords, records, wroteProfiles, profiles, devices, publishers,
      if_neg (Nat.not_lt.mpr writable.records), if_neg (Nat.not_lt.mpr writable.profiles),
      if_neg (Nat.not_lt.mpr writable.devices), if_neg (Nat.not_lt.mpr writable.publishers),
      if_pos sound]

/-- The encoder accepts the writable states whose payload can be written and fits. -/
theorem encodePersistedState_eq_ok {bytes : Text} :
    encodePersistedState state = .ok bytes ↔
      state.Writable ∧ ∃ payload, (ByteLayout.state state).document = some payload ∧
        payload.length ≤ payloadLimit ∧ bytes = container payload := by
  have start : ({ limit := payloadLimit } : ByteWriter).Sound := ⟨rfl, Nat.zero_le _⟩
  have sealed : ∀ payload : Text,
      (encodeHeader payload).u32 (crc32 (encodeHeader payload).out).toNat =
        (encodeHeader payload).appended (checksum (encodeHeader payload).out) := by
    intro payload
    have size := length_containerHead payload
    rw [encodeHeader_eq]
    refine (ByteWriter.Sound.raw_fits ⟨rfl, ?_⟩ ?_).1
    · rw [size]
      exact (by decide : 28 ≤ headerSize)
    · rw [size, length_littleEndian]
      exact (by decide : 28 + 4 ≤ headerSize)
  have header : ∀ payload : Text, (encodeHeader payload).ok = true := by
    intro payload
    rw [encodeHeader_eq]
  constructor
  · intro encoded
    unfold encodePersistedState at encoded
    split at encoded
    · cases encoded
    · next writer accepted =>
        obtain ⟨writable, sound, written⟩ := encodePayload_eq_emit.mp accepted
        rw [← written] at sound
        obtain ⟨payload, layout, room⟩ := start.emit_ok_iff.mp sound
        rw [start.emit_eq layout room] at written
        refine ⟨writable, payload, layout, by simpa using room, ?_⟩
        have out : writer.out = payload := by
          rw [← written]
          rfl
        simp only [out, header, sealed, ByteWriter.appended, Bool.not_true, Bool.false_eq_true,
          if_false, Except.ok.injEq] at encoded
        rw [← encoded, encodeHeader_eq]
        rfl
  · intro given
    rcases given with ⟨writable, payload, layout, room, rfl⟩
    have within : 0 + payload.length ≤ payloadLimit := by
      rwa [Nat.zero_add]
    have wrote := start.emit_eq layout within
    have accepted : encodePayload state =
        .ok (({ limit := payloadLimit } : ByteWriter).appended payload) := by
      refine encodePayload_eq_emit.mpr ⟨writable, rfl, wrote⟩
    simp only [encodePersistedState, accepted, header, sealed, ByteWriter.appended,
      Bool.not_true, Bool.false_eq_true, if_false, Except.ok.injEq]
    rw [encodeHeader_eq]
    rfl

end Writing

/-- A stored list: bounded, of legal values, and no two of them share a key. -/
structure Listed {α κ : Type} (limit : Nat) (legal : α → Prop) (key : α → κ)
    (values : List α) : Prop where
  bounded : values.length ≤ limit
  legal : ∀ value ∈ values, legal value
  distinct : (values.map key).Nodup

/-- One definition of a profile. -/
def PortProfile.key (profile : PortProfile) : PortProfileId × PortProfileGeneration :=
  (profile.id, profile.generation)

/-- One incarnation of a publisher. -/
def PublisherRecord.key (publisher : PublisherRecord) : PublisherId × WorkerBootId :=
  (publisher.publisher, publisher.boot)

/-- What the decoder accepts as a state. -/
structure PersistedState.Readable (state : PersistedState) : Prop where
  records : Listed maxPersistedRecords PortRecord.Readable PortRecord.port state.records
  profiles : Listed maxProfiles
    (fun profile => profile.configuration.Readable ∧ profile.validate = .ok ())
    PortProfile.key state.profiles
  devices : Listed maxDevices
    (fun device => (device.device.valid && device.generation.valid) = true)
    DeviceBinding.device state.devices
  publishers : Listed maxPublishers
    (fun publisher => (publisher.publisher.valid && publisher.boot.valid) = true)
    PublisherRecord.key state.publishers

section Reading

/-- A layout that starts with an identity is never empty. -/
theorem substantial_id {α : Type} {domain : IdDomain} {get : α → StrongId domain}
    {legal : α → Prop} : Reads.Substantial (fun value => ByteLayout.id (get value)) legal := by
  intro value document _ written empty
  subst empty
  dsimp only [ByteLayout.id, ByteLayout.text] at written
  split at written
  · cases written
  · obtain ⟨front, back, lead, _, none⟩ := Layout.document_cons.mp written
    have length := congrArg List.length (List.append_eq_nil_iff.mp none.symm).1
    rw [← Option.some.inj lead, length_littleEndian] at length
    cases length

theorem reads_distinct {α κ : Type} {limit : Nat} {reader : ByteReader α}
    {layout : α → ByteLayout} {legal : α → Prop} {clash : α → α → Bool}
    {bounds malformed duplicate : Text} (key : α → κ) (narrow : limit < 2 ^ 32)
    (same : ∀ earlier value, clash earlier value = true ↔ key earlier = key value)
    (substantial : Reads.Substantial layout legal)
    (reads : Reads (fun _ => True) reader layout legal) :
    Reads (fun _ => True)
      (StateReader.readDistinct limit reader clash bounds malformed duplicate)
      (ByteLayout.list layout)
      (Listed limit legal key) := by
  refine .congr (.counted (ByteReader.counts_bounded narrow).required substantial
    (fun count => reads.required.distinct count []) fun _ accepted => accepted.1)
    (fun _ => rfl) fun values => ?_
  rw [Reads.apart_iff_nodup key same]
  exact ⟨fun ⟨bounded, legal, distinct⟩ => ⟨bounded, legal, distinct⟩,
    fun ⟨bounded, legal, distinct⟩ => ⟨bounded, legal, distinct⟩⟩

theorem reads_state :
    Reads (fun _ => True) StateReader.readState ByteLayout.state PersistedState.Readable := by
  have reads : Reads (fun _ => True) StateReader.readState ByteLayout.state
      (fun state => Listed maxPersistedRecords PortRecord.Readable PortRecord.port state.records ∧
        Listed maxProfiles
          (fun profile => profile.configuration.Readable ∧ profile.validate = .ok ())
          PortProfile.key state.profiles ∧
        Listed maxDevices
          (fun device => (device.device.valid && device.generation.valid) = true)
          DeviceBinding.device state.devices ∧
        Listed maxPublishers
          (fun publisher => (publisher.publisher.valid && publisher.boot.valid) = true)
          PublisherRecord.key state.publishers ∧ True) := by
    unfold StateReader.readState ByteLayout.state
    refine .free PersistedState.fabric ByteReader.reads_strongId.required fun _ => ?_
    refine .free PersistedState.site ByteReader.reads_strongId.required fun _ => ?_
    refine .free PersistedState.epoch ByteReader.reads_generation.required fun _ => ?_
    refine .free PersistedState.engineGeneration ByteReader.reads_generation.required fun _ => ?_
    refine .free PersistedState.topology ByteReader.reads_generation.required fun _ => ?_
    refine .field PersistedState.records (reads_distinct PortRecord.port (by decide)
      (fun _ _ => decide_eq_true_iff) substantial_id.append ByteReader.reads_record) fun _ => ?_
    refine .field PersistedState.profiles (reads_distinct PortProfile.key (by decide)
      (fun _ _ => by simp [PortProfile.key]) substantial_id.append ByteReader.reads_profile)
      fun _ => ?_
    refine .field PersistedState.devices (reads_distinct DeviceBinding.device (by decide)
      (fun _ _ => decide_eq_true_iff) substantial_id.append ByteReader.reads_device) fun _ => ?_
    refine .field PersistedState.publishers (reads_distinct PublisherRecord.key (by decide)
      (fun _ _ => by simp [PublisherRecord.key]) substantial_id.append
      ByteReader.reads_publisher) fun _ => ?_
    refine .done fun value => ?_
    cases value
    simp [and_assoc, eq_comm]
  exact reads.congr (fun _ => rfl) fun state =>
    ⟨fun ⟨records, profiles, devices, publishers, _⟩ => ⟨records, profiles, devices, publishers⟩,
      fun ⟨records, profiles, devices, publishers⟩ =>
        ⟨records, profiles, devices, publishers, trivial⟩⟩

/-- The decoder accepts the containers of the readable states and no others. -/
theorem decodePersistedState_eq_ok {bytes : Text} {state : PersistedState} :
    decodePersistedState bytes = .ok state ↔
      state.Readable ∧ ∃ payload, (ByteLayout.state state).document = some payload ∧
        payload.length ≤ maxPersistenceBytes ∧ bytes = container payload := by
  constructor
  · intro decoded
    unfold decodePersistedState at decoded
    split at decoded
    · cases decoded
    · next payload opened =>
        obtain ⟨bounded, rfl⟩ := decodeContainer_eq_ok.mp opened
        split at decoded
        · cases decoded
        · next found rest read =>
            split at decoded
            · next empty =>
                cases decoded
                rw [List.isEmpty_iff.mp empty] at read
                obtain ⟨_, readable, document, written, rfl⟩ := (reads_state _ _ _).mp read
                rw [List.append_nil] at bounded ⊢
                exact ⟨readable, document, written, bounded, rfl⟩
            · cases decoded
  · intro given
    rcases given with ⟨readable, payload, written, bounded, rfl⟩
    have read : StateReader.readState.run payload = .ok (state, []) :=
      (reads_state _ _ _).mpr ⟨trivial, readable, payload, written, (List.append_nil _).symm⟩
    simp [decodePersistedState, decodeContainer_eq_ok.mpr ⟨bounded, rfl⟩, read]

end Reading

end PortFabric
