import PortFabric.Protocol.MessageReader
import PortFabric.Survival

/-!
# Properties of the message codec

The layouts of the messages whose payload is more than a few words, what their
encoders produce and what their decoders accept.
-/

set_option autoImplicit false

namespace PortFabric

open Formats

/-! ## Layouts -/

namespace ByteLayout

def detail (detail : Text × Text) : ByteLayout :=
  [text detail.1 maxNameLength, text detail.2 maxDescriptionLength].flatten

def outcome (outcome : ReceivedOutcome) : ByteLayout :=
  [ unsigned 1 outcome.code.toNat, text outcome.message maxDescriptionLength,
    list detail outcome.details ].flatten

def mutation (message : PortMutationMessage) : ByteLayout :=
  [ unsigned 1 message.kind.toNat, authority message.authority, id message.port,
    id message.parentDevice, generation message.deviceGeneration,
    optional configuration message.configuration, unsigned 1 message.administrativeOp.toNat,
    id message.profile, generation message.profileGeneration, boolean message.release,
    capabilityBinding message.capability, text message.detail maxDescriptionLength,
    unsigned 1 message.ownerKind.toNat, id message.owner, boolean message.exclusive,
    applied message.evidence, unsigned 1 message.drift.toNat,
    unsigned 1 message.provenanceKind.toNat,
    text message.provenanceSource maxNameLength ].flatten

/-- A response behind its outcome. -/
def responseContent {ω : Type} (response : QueryResponse ω) : List ByteLayout :=
  [ unsigned 1 response.kind.byte, list id response.ports, list record response.records,
    list profile response.profiles, list device response.devices,
    text response.text maxQueryTextBytes, generation response.generation,
    generation response.epoch, text response.digest.toHex 64 ]

def queryResponse (response : QueryResponse ReceivedOutcome) : ByteLayout :=
  outcome response.outcome ++ (responseContent response).flatten

theorem whole_mutation {message : PortMutationMessage} :
    (mutation message).Whole ↔
      (∀ configuration, message.configuration = some configuration →
        configuration.role.length ≤ maxNameLength ∧
          configuration.provenance.source.length ≤ maxNameLength) ∧
      (message.capability.source.length ≤ maxNameLength ∧
        message.capability.capabilities.transceiverClass.length ≤ maxNameLength) ∧
      message.detail.length ≤ maxDescriptionLength ∧
      message.evidence.source.length ≤ maxNameLength ∧
      message.provenanceSource.length ≤ maxNameLength := by
  simp [mutation]

end ByteLayout

/-! ## Encoders -/

namespace ByteWriter

/-- A payload is the whole layout, when it can be written and fits a frame. -/
theorem payload_eq_ok {write : ByteWriter → ByteWriter} {error : Outcome} {layout : ByteLayout}
    {bytes : Text} (emits : ∀ writer, write writer = writer.emit layout) :
    payload write error = .ok bytes ↔
      layout.document = some bytes ∧ bytes.length ≤ maxFrameBytes := by
  have start : ({ limit := maxFrameBytes } : ByteWriter).Sound := ⟨rfl, Nat.zero_le _⟩
  simp only [payload, emits]
  constructor
  · intro accepted
    split at accepted
    · next sound =>
        obtain ⟨document, written, fits⟩ := start.emit_ok_iff.mp sound
        rw [start.emit_eq written fits] at accepted
        cases accepted
        rw [List.length_nil, Nat.zero_add] at fits
        exact ⟨written, fits⟩
    · cases accepted
  · intro given
    rcases given with ⟨written, fits⟩
    have within : 0 + bytes.length ≤ maxFrameBytes := by
      rwa [Nat.zero_add]
    rw [start.emit_eq written within]
    rfl

variable (writer : ByteWriter)

theorem writeOutcome_eq_emit (outcome : Outcome) :
    writer.writeOutcome outcome = writer.emit (ByteLayout.outcome outcome.received) := by
  have details : ∀ (writer : ByteWriter) (details : List (Text × Text)),
      (writer.u32 details.length).each details (fun w detail =>
        (w.text detail.1 maxNameLength).text detail.2 maxDescriptionLength) =
          writer.emit (ByteLayout.list ByteLayout.detail details) := by
    refine fun writer => writer.list_eq_emit fun writer detail => ?_
    simp only [ByteLayout.detail, List.flatten_cons, List.flatten_nil, emit_append, emit_nil,
      text_eq_emit]
  simp only [writeOutcome, details]
  simp only [ByteLayout.outcome, Outcome.received, ByteReader.unsigned_one_mod,
    List.flatten_cons, List.flatten_nil, emit_append, emit_nil, u8_eq_emit, text_eq_emit]

theorem writeMutation_eq_emit (message : PortMutationMessage) :
    writer.writeMutation message = writer.emit (ByteLayout.mutation message) := by
  simp only [writeMutation, optional_eq_emit _ writeConfiguration_eq_emit]
  simp only [ByteLayout.mutation, List.flatten_cons, List.flatten_nil, emit_append, emit_nil,
    u8_eq_emit, boolean_eq_emit, text_eq_emit, writeId_eq_emit, generation_eq_emit,
    writeAuthority_eq_emit, writeCapabilityBinding_eq_emit, writeApplied_eq_emit]

theorem writeQueryResponse_eq_emit (response : QueryResponse Outcome) :
    writer.writeQueryResponse response =
      writer.emit (ByteLayout.queryResponse response.received) := by
  have ports := fun writer : ByteWriter =>
    writer.list_eq_emit (fun writer id => writer.writeId_eq_emit id) response.ports
  have records := fun writer : ByteWriter =>
    writer.list_eq_emit (fun writer => writer.writeRecord_eq_emit) response.records
  have profiles := fun writer : ByteWriter =>
    writer.list_eq_emit (fun writer => writer.writeProfile_eq_emit) response.profiles
  have devices := fun writer : ByteWriter =>
    writer.list_eq_emit (fun writer => writer.writeDevice_eq_emit) response.devices
  simp only [writeQueryResponse, ports, records, profiles, devices]
  simp only [ByteLayout.queryResponse, ByteLayout.responseContent, QueryResponse.received,
    List.flatten_cons, List.flatten_nil, emit_append, emit_nil, u8_eq_emit, text_eq_emit,
    generation_eq_emit, writeOutcome_eq_emit]

end ByteWriter

theorem encodeOutcome_eq_ok {outcome : Outcome} {bytes : Text} :
    encodeOutcome outcome = .ok bytes ↔
      (ByteLayout.outcome outcome.received).document = some bytes ∧
        bytes.length ≤ maxFrameBytes :=
  ByteWriter.payload_eq_ok fun writer => writer.writeOutcome_eq_emit outcome

theorem encodeMutation_eq_ok {message : PortMutationMessage} {bytes : Text} :
    encodeMutation message = .ok bytes ↔
      (ByteLayout.mutation message).document = some bytes ∧ bytes.length ≤ maxFrameBytes :=
  ByteWriter.payload_eq_ok fun writer => writer.writeMutation_eq_emit message

theorem encodeQueryResponse_eq_ok {response : QueryResponse Outcome} {bytes : Text} :
    encodeQueryResponse response = .ok bytes ↔
      response.ports.length ≤ maxSnapshotPorts ∧
        (ByteLayout.queryResponse response.received).document = some bytes ∧
        bytes.length ≤ maxFrameBytes := by
  rw [encodeQueryResponse]
  split
  · next crowded =>
      refine iff_of_false nofun ?_
      intro given
      rcases given with ⟨bounded, _⟩
      exact absurd bounded (Nat.not_le.mpr crowded)
  · next bounded =>
      rw [ByteWriter.payload_eq_ok fun writer => writer.writeQueryResponse_eq_emit response,
        and_iff_right (Nat.not_lt.mp bounded)]

/-! ## Decoders -/

/-- What a mutation message has to be to be read; raw bytes are left to dispatch. -/
structure PortMutationMessage.Readable (message : PortMutationMessage) : Prop where
  configuration : ∀ configuration, message.configuration = some configuration →
    configuration.Readable
  capabilities : message.capability.capabilities.validate = .ok ()
  capability : message.capability.valid = true
  outcome : message.evidence.outcome.isValid = true

namespace MessageReader

variable {α : Type} {reader : MessageReader α} {layout : α → ByteLayout} {legal : α → Prop}
  {bytes trailing : Text} {value : α}

theorem whole_eq_ok :
    reader.whole bytes trailing = .ok value ↔ reader.run bytes = .ok (value, []) := by
  rw [whole]
  cases reader.run bytes with
  | error outcome => exact iff_of_false nofun nofun
  | ok found =>
      obtain ⟨found, rest⟩ := found
      cases rest with
      | nil => simp
      | cons byte rest => simp

theorem whole_of_reads (reads : Reads (fun _ => True) reader layout legal) :
    reader.whole bytes trailing = .ok value ↔
      legal value ∧ (layout value).document = some bytes := by
  rw [whole_eq_ok, reads]
  constructor
  · intro given
    rcases given with ⟨_, accepted, document, written, rfl⟩
    rw [List.append_nil]
    exact ⟨accepted, written⟩
  · intro given
    rcases given with ⟨accepted, written⟩
    exact ⟨trivial, accepted, bytes, written, (List.append_nil _).symm⟩

theorem leading_eq_ok :
    reader.leading bytes = .ok value ↔ ∃ rest, reader.run bytes = .ok (value, rest) := by
  rw [leading]
  cases reader.run bytes with
  | error outcome => simp
  | ok found => simp [Prod.ext_iff]

end MessageReader

namespace ByteReader

theorem reads_detail :
    Reads (fun _ => True) readDetail ByteLayout.detail fun _ => True := by
  unfold readDetail ByteLayout.detail
  refine .free Prod.fst (reads_text _ (by decide)) fun _ => ?_
  refine .free Prod.snd (reads_text _ (by decide)) fun _ => ?_
  refine .done fun value => ?_
  cases value
  simp [eq_comm]

/-- A layout that starts with a text is never empty. -/
theorem substantial_text {α : Type} {get : α → Text} {bound : Nat} {legal : α → Prop} :
    Reads.Substantial (fun value => ByteLayout.text (get value) bound) legal := by
  intro value document _ written empty
  subst empty
  dsimp only [ByteLayout.text] at written
  split at written
  · cases written
  · obtain ⟨front, back, lead, _, none⟩ := Layout.document_cons.mp written
    have length := congrArg List.length (List.append_eq_nil_iff.mp none.symm).1
    rw [← Option.some.inj lead, length_littleEndian] at length
    cases length

theorem reads_outcomeFields :
    Reads (fun _ => True) readOutcomeFields ByteLayout.outcome
      (fun outcome => outcome.details.length ≤ maxOutcomeDetails) := by
  have reads : Reads (fun _ => True) readOutcomeFields ByteLayout.outcome
      (fun outcome => (outcome.details.length ≤ maxOutcomeDetails ∧
        ∀ detail ∈ outcome.details, True) ∧ True) := by
    unfold readOutcomeFields ByteLayout.outcome
    refine .free ReceivedOutcome.code reads_u8 fun _ => ?_
    refine .free ReceivedOutcome.message (reads_text _ (by decide)) fun _ => ?_
    refine .field ReceivedOutcome.details
      (reads_list (by decide) reads_detail substantial_text.append) fun _ => ?_
    refine .done fun value => ?_
    cases value
    simp [and_assoc, eq_comm]
  exact reads.congr (fun _ => rfl) fun _ => ⟨fun accepted => accepted.1.1,
    fun accepted => ⟨⟨accepted, fun _ _ => trivial⟩, trivial⟩⟩

end ByteReader

open ByteReader

theorem reads_mutation :
    Reads (fun _ => True) readMutation ByteLayout.mutation PortMutationMessage.Readable := by
  have reads : Reads (fun _ => True) readMutation ByteLayout.mutation
      (fun message => (∀ configuration, message.configuration = some configuration →
          configuration.Readable) ∧
        (message.capability.capabilities.validate = .ok () ∧
          message.capability.valid = true) ∧
        message.evidence.outcome.isValid = true ∧ True) := by
    unfold readMutation ByteLayout.mutation
    refine .free PortMutationMessage.kind reads_u8.required fun _ => ?_
    refine .free PortMutationMessage.authority reads_authority.required fun _ => ?_
    refine .free PortMutationMessage.port reads_strongId.required fun _ => ?_
    refine .free PortMutationMessage.parentDevice reads_strongId.required fun _ => ?_
    refine .free PortMutationMessage.deviceGeneration reads_generation.required fun _ => ?_
    refine .field PortMutationMessage.configuration
      (reads_boolean.required.optional reads_configuration.required) fun _ => ?_
    refine .free PortMutationMessage.administrativeOp reads_u8.required fun _ => ?_
    refine .free PortMutationMessage.profile reads_strongId.required fun _ => ?_
    refine .free PortMutationMessage.profileGeneration reads_generation.required fun _ => ?_
    refine .free PortMutationMessage.release reads_boolean.required fun _ => ?_
    refine .field PortMutationMessage.capability reads_capabilityBinding.required fun _ => ?_
    refine .free PortMutationMessage.detail (reads_text _ (by decide)).required fun _ => ?_
    refine .free PortMutationMessage.ownerKind reads_u8.required fun _ => ?_
    refine .free PortMutationMessage.owner reads_strongId.required fun _ => ?_
    refine .free PortMutationMessage.exclusive reads_boolean.required fun _ => ?_
    refine .field PortMutationMessage.evidence reads_applied.required fun _ => ?_
    refine .free PortMutationMessage.drift reads_u8.required fun _ => ?_
    refine .free PortMutationMessage.provenanceKind reads_u8.required fun _ => ?_
    refine .free PortMutationMessage.provenanceSource (reads_text _ (by decide)).required
      fun _ => ?_
    refine .done fun value => ?_
    cases value
    simp [and_assoc, eq_comm]
  exact reads.congr (fun _ => rfl) fun _ =>
    ⟨fun ⟨configuration, ⟨capabilities, capability⟩, outcome, _⟩ =>
      ⟨configuration, capabilities, capability, outcome⟩,
    fun ⟨configuration, capabilities, capability, outcome⟩ =>
      ⟨configuration, ⟨capabilities, capability⟩, outcome, trivial⟩⟩

theorem decodeMutation_eq_ok {message : PortMutationMessage} {bytes : Text} :
    decodeMutation bytes = .ok message ↔
      message.Readable ∧ (ByteLayout.mutation message).document = some bytes :=
  MessageReader.whole_of_reads reads_mutation

/-! ## Query responses -/

section Hexadecimal

theorem hexValue_hexDigit (byte : UInt8) :
    hexValue (hexDigit (byte >>> 4)) = some (byte >>> 4) ∧
      hexValue (hexDigit (byte &&& 0x0f)) = some (byte &&& 0x0f) ∧
      (byte >>> 4) <<< 4 ||| (byte &&& 0x0f) = byte := by
  have every : ∀ index : Fin 256,
      hexValue (hexDigit (UInt8.ofNat index >>> 4)) = some (UInt8.ofNat index >>> 4) ∧
        hexValue (hexDigit (UInt8.ofNat index &&& 0x0f)) = some (UInt8.ofNat index &&& 0x0f) ∧
        (UInt8.ofNat index >>> 4) <<< 4 ||| (UInt8.ofNat index &&& 0x0f) =
          UInt8.ofNat index := by
    decide +kernel
  simpa using every ⟨byte.toNat, byte.toNat_lt⟩

theorem hexDigit_of_hexValue {digit value : UInt8} (found : hexValue digit = some value) :
    hexDigit value = digit ∧ value < 16 := by
  have every : ∀ index : Fin 256, ∀ value ∈ hexValue (UInt8.ofNat index),
      hexDigit value = UInt8.ofNat index ∧ value < 16 := by
    decide +kernel
  have known := every ⟨digit.toNat, digit.toNat_lt⟩ value
  simp only [UInt8.ofNat_toNat] at known
  exact known found

/-- Two digits are the halves of the byte they are put together to. -/
theorem halves_of_digits {high low : UInt8} (upper : high < 16) (lower : low < 16) :
    (high <<< 4 ||| low) >>> 4 = high ∧ (high <<< 4 ||| low) &&& 0x0f = low := by
  have every : ∀ high low : Fin 16,
      (UInt8.ofNat high <<< 4 ||| UInt8.ofNat low) >>> 4 = UInt8.ofNat high ∧
        (UInt8.ofNat high <<< 4 ||| UInt8.ofNat low) &&& 0x0f = UInt8.ofNat low := by
    decide +kernel
  simpa using every ⟨high.toNat, upper⟩ ⟨low.toNat, lower⟩

theorem parseHex_eq_some {digits : Text} {digest : Digest} :
    parseHex digits = some digest ↔ digest.toHex = digits := by
  constructor
  · intro parsed
    induction digits using parseHex.induct generalizing digest with
    | case1 =>
        cases parsed
        rfl
    | case2 => cases parsed
    | case3 high low rest ih =>
        simp only [parseHex, bind, Option.bind_eq_some_iff, pure, Option.some.injEq] at parsed
        obtain ⟨upper, foundHigh, lower, foundLow, bytes, parsed, rfl⟩ := parsed
        obtain ⟨highDigit, highBound⟩ := hexDigit_of_hexValue foundHigh
        obtain ⟨lowDigit, lowBound⟩ := hexDigit_of_hexValue foundLow
        obtain ⟨first, second⟩ := halves_of_digits highBound lowBound
        have rest := ih parsed
        simp only [Digest.toHex, List.flatMap_cons, first, second, highDigit, lowDigit] at rest ⊢
        rw [rest]
        rfl
  · intro same
    subst same
    induction digest with
    | nil => rfl
    | cons byte rest ih =>
        obtain ⟨high, low, whole⟩ := hexValue_hexDigit byte
        simp only [Digest.toHex, List.flatMap_cons, List.cons_append, List.nil_append] at ih ⊢
        simp [parseHex, high, low, whole, ih]

theorem length_toHex (digest : Digest) : digest.toHex.length = 2 * digest.length := by
  induction digest with
  | nil => rfl
  | cons byte rest ih =>
      simp only [Digest.toHex, List.flatMap_cons, List.length_append, List.length_cons,
        List.length_nil] at ih ⊢
      omega

end Hexadecimal

theorem QueryKind.declared_eq_some {index : Nat} {kind : QueryKind} :
    QueryKind.declared[index]? = some kind ↔ kind.byte = index := by
  have distinct : QueryKind.declared.Nodup := by decide
  constructor
  · intro found
    obtain ⟨bound, rfl⟩ := List.getElem?_eq_some_iff.mp found
    exact distinct.idxOf_getElem index bound
  · intro same
    subst same
    exact List.getElem?_idxOf (by cases kind <;> decide)

theorem QueryKind.byte_lt (kind : QueryKind) : kind.byte < 256 := by
  cases kind <;> decide

theorem reads_queryKind (malformed : Text) (illegal : Outcome) :
    Reads (fun _ => True) (readQueryKind malformed illegal)
      (fun kind => ByteLayout.unsigned 1 kind.byte) fun _ => True := by
  have inverse : ∀ (raw : UInt8) (kind : QueryKind),
      QueryKind.declared[raw.toNat]? = some kind ↔ True ∧ UInt8.ofNat kind.byte = raw := by
    intro raw kind
    rw [QueryKind.declared_eq_some, true_and]
    constructor
    · intro same
      rw [same, UInt8.ofNat_toNat]
    · intro same
      subst same
      exact (UInt8.toNat_ofNat_of_lt' kind.byte_lt).symm
  exact (Reads.convert reads_u8.required inverse).congr (fun _ => unsigned_one_mod _)
    fun _ => and_self_iff

theorem reads_responseList {α : Type} {limit : Nat} {reader : ByteReader α}
    {layout : α → ByteLayout} {legal : α → Prop} (message : Text) (narrow : limit < 2 ^ 32)
    (reads : Reads (fun _ => True) reader layout legal)
    (substantial : Reads.Substantial layout legal) :
    Reads (fun _ => True) (readResponseList limit reader message) (ByteLayout.list layout)
      (fun values => values.length ≤ limit ∧ ∀ value ∈ values, legal value) :=
  .counted (counts_bounded narrow).required substantial reads.required.times fun _ => id

theorem reads_responseDigest :
    Reads (fun _ => True) readResponseDigest
      (fun digest => ByteLayout.text digest.toHex 64) (fun digest => digest.length = 32) := by
  have inverse : ∀ (digits : Text) (digest : Digest),
      (if digits.length ≠ 64 then none else parseHex digits) = some digest ↔
        digest.length = 32 ∧ digest.toHex = digits := by
    intro digits digest
    have length := length_toHex digest
    split
    · next short =>
        refine iff_of_false nofun ?_
        intro given
        rcases given with ⟨whole, rfl⟩
        omega
    · next whole =>
        rw [parseHex_eq_some]
        constructor
        · intro same
          subst same
          exact ⟨by omega, rfl⟩
        · exact And.right
  exact (Reads.convert (reads_text _ (by decide)).required inverse).congr (fun _ => rfl)
    fun _ => and_iff_left trivial

/-- What a query response has to carry behind its outcome to be read. -/
structure QueryResponse.Readable {ω : Type} (response : QueryResponse ω) : Prop where
  ports : response.ports.length ≤ maxSnapshotPorts
  records : response.records.length ≤ maxSnapshotPorts ∧
    ∀ record ∈ response.records, record.Readable
  profiles : response.profiles.length ≤ maxProfiles ∧
    ∀ profile ∈ response.profiles,
      profile.configuration.Readable ∧ profile.validate = .ok ()
  devices : response.devices.length ≤ maxDevices ∧
    ∀ device ∈ response.devices, (device.device.valid && device.generation.valid) = true
  digest : response.digest.length = 32

/-- The outcome a reader makes of the fields it finds. -/
def ReceivedOutcome.normalised (fields : ReceivedOutcome) : ReceivedOutcome :=
  fields.details.foldl ReceivedOutcome.withDetail
    (ReceivedOutcome.withMessage { code := fields.code } fields.message)

theorem reads_outcome :
    ReadsAs readOutcome ByteLayout.outcome
      (fun fields => fields.details.length ≤ maxOutcomeDetails) ReceivedOutcome.normalised :=
  .of_reads reads_outcomeFields

theorem readQueryResponse_eq_ok {response : QueryResponse ReceivedOutcome}
    {input rest : Text} :
    readQueryResponse.run input = .ok (response, rest) ↔
      response.Readable ∧ ∃ fields, fields.details.length ≤ maxOutcomeDetails ∧
        fields.normalised = response.outcome ∧ ∃ document,
          (ByteLayout.outcome fields ++ (ByteLayout.responseContent response).flatten).document =
            some document ∧ input = document ++ rest := by
  have read : readQueryResponse.run input = .ok (response, rest) ↔
      True ∧ ((response.ports.length ≤ maxSnapshotPorts ∧ ∀ port ∈ response.ports, True) ∧
        (response.records.length ≤ maxSnapshotPorts ∧
          ∀ record ∈ response.records, record.Readable) ∧
        (response.profiles.length ≤ maxProfiles ∧ ∀ profile ∈ response.profiles,
          profile.configuration.Readable ∧ profile.validate = .ok ()) ∧
        (response.devices.length ≤ maxDevices ∧ ∀ device ∈ response.devices,
          (device.device.valid && device.generation.valid) = true) ∧
        response.digest.length = 32 ∧ True) ∧
      ∃ fields, fields.details.length ≤ maxOutcomeDetails ∧
        fields.normalised = response.outcome ∧ ∃ document,
          (ByteLayout.outcome fields ++ (ByteLayout.responseContent response).flatten).document =
            some document ∧ input = document ++ rest := by
    have outcome : ∀ message, ReadsAs (MessageReader.field readOutcome message)
        ByteLayout.outcome (fun fields => fields.details.length ≤ maxOutcomeDetails)
        ReceivedOutcome.normalised := fun _ => reads_outcome.required
    unfold readQueryResponse
    apply ReadsAs.field QueryResponse.outcome (outcome _)
    intro _
    unfold ByteLayout.responseContent
    refine .free QueryResponse.kind (reads_queryKind _ _) fun _ => ?_
    refine .field QueryResponse.ports
      (reads_responseList _ (by decide) reads_strongId substantial_text) fun _ => ?_
    refine .field QueryResponse.records
      (reads_responseList _ (by decide) reads_record substantial_text.append) fun _ => ?_
    refine .field QueryResponse.profiles
      (reads_responseList _ (by decide) reads_profile substantial_text.append) fun _ => ?_
    refine .field QueryResponse.devices
      (reads_responseList _ (by decide) reads_device substantial_text.append) fun _ => ?_
    refine .free QueryResponse.text (reads_text _ (by decide)).required fun _ => ?_
    refine .free QueryResponse.generation reads_generation.required fun _ => ?_
    refine .free QueryResponse.epoch reads_generation.required fun _ => ?_
    refine .field QueryResponse.digest reads_responseDigest fun _ => ?_
    refine .done fun value => ?_
    cases value
    simp [and_assoc, eq_comm]
  rw [read]
  constructor
  · intro given
    rcases given with ⟨_, ⟨⟨ports, _⟩, records, profiles, devices, digest, _⟩, found⟩
    exact ⟨⟨ports, records, profiles, devices, digest⟩, found⟩
  · intro given
    rcases given with ⟨⟨ports, records, profiles, devices, digest⟩, found⟩
    exact ⟨trivial, ⟨⟨ports, fun _ _ => trivial⟩, records, profiles, devices, digest, trivial⟩,
      found⟩

theorem decodeQueryResponse_eq_ok {response : QueryResponse ReceivedOutcome} {bytes : Text} :
    decodeQueryResponse bytes = .ok response ↔
      response.Readable ∧ ∃ fields, fields.details.length ≤ maxOutcomeDetails ∧
        fields.normalised = response.outcome ∧
          (ByteLayout.outcome fields ++ (ByteLayout.responseContent response).flatten).document =
            some bytes := by
  rw [decodeQueryResponse, MessageReader.whole_eq_ok, readQueryResponse_eq_ok]
  simp only [List.append_nil, exists_eq_right']

theorem decodeOutcome_eq_ok {outcome : ReceivedOutcome} {bytes : Text} :
    decodeOutcome bytes = .ok outcome ↔
      ∃ fields, fields.details.length ≤ maxOutcomeDetails ∧ fields.normalised = outcome ∧
        ∃ document rest, (ByteLayout.outcome fields).document = some document ∧
          bytes = document ++ rest := by
  rw [decodeOutcome, MessageReader.leading_eq_ok]
  simp only [MessageReader.field, reads_outcome.required _ _ _]
  constructor
  · intro given
    rcases given with ⟨rest, fields, bounded, same, document, written, rfl⟩
    exact ⟨fields, bounded, same, document, rest, written, rfl⟩
  · intro given
    rcases given with ⟨fields, bounded, same, document, rest, written, rfl⟩
    exact ⟨rest, fields, bounded, same, document, written, rfl⟩

/-! ## Round trips -/

/-- The response as a peer reads it: the texts of its outcome become single lines. -/
def QueryResponse.read (response : QueryResponse Outcome) : QueryResponse ReceivedOutcome :=
  { response.received with outcome := response.outcome.received.normalised }

namespace ByteLayout

open Layout

theorem whole_outcome {outcome : Outcome} (detailed : outcome.Detailed) :
    Whole (ByteLayout.outcome outcome.received) ↔
      outcome.message.length ≤ maxDescriptionLength := by
  simp only [ByteLayout.outcome, Outcome.received, List.flatten_cons, List.flatten_nil,
    whole_append, whole_unsigned, whole_text, whole_list, whole_nil, true_and, and_true]
  refine and_iff_left fun detail member => ?_
  obtain ⟨key, value⟩ := detailed.bounded detail member
  simp [ByteLayout.detail, key, value]

theorem size_outcome_le {outcome : Outcome} (detailed : outcome.Detailed)
    (short : outcome.message.length ≤ maxDescriptionLength) :
    size (ByteLayout.outcome outcome.received) ≤ 40000 := by
  have details : size (outcome.details.flatMap ByteLayout.detail) ≤
      1160 * outcome.details.length := by
    refine size_flatMap_le fun detail member => ?_
    obtain ⟨key, value⟩ := detailed.bounded detail member
    simp only [ByteLayout.detail, List.flatten_cons, List.flatten_nil, size_append, size_nil,
      size_text key, size_text value]
    simp only [maxNameLength, maxDescriptionLength] at key value
    omega
  have few := detailed.few
  simp only [ByteLayout.outcome, Outcome.received, List.flatten_cons, List.flatten_nil,
    size_append, size_nil, size_unsigned, size_list, size_text short]
  simp only [maxOutcomeDetails, maxDescriptionLength] at few short
  omega

end ByteLayout

/-- An outcome can be sent when its message is bounded. -/
theorem encodeOutcome_ok_iff {outcome : Outcome} (detailed : outcome.Detailed) :
    (∃ payload, encodeOutcome outcome = .ok payload) ↔
      outcome.message.length ≤ maxDescriptionLength := by
  simp only [encodeOutcome_eq_ok]
  constructor
  · intro given
    rcases given with ⟨payload, written, _⟩
    exact (ByteLayout.whole_outcome detailed).mp (Layout.whole_iff.mpr ⟨payload, written⟩)
  · intro short
    obtain ⟨payload, written⟩ := Layout.whole_iff.mp ((ByteLayout.whole_outcome detailed).mpr short)
    refine ⟨payload, written, ?_⟩
    rw [Layout.length_document written]
    exact Nat.le_trans (ByteLayout.size_outcome_le detailed short) (by decide)

theorem encodeOutcome_bounded {outcome : Outcome} (payload : Text)
    (encoded : encodeOutcome outcome = .ok payload) : payload.length ≤ maxFrameBytes :=
  (encodeOutcome_eq_ok.mp encoded).2

section Encoded

variable {outcome : Outcome} {response : QueryResponse Outcome} {bytes : Text}

theorem QueryResponse.readable_read : response.read.Readable ↔ response.Readable := by
  constructor
  · intro readable
    exact ⟨readable.ports, readable.records, readable.profiles, readable.devices, readable.digest⟩
  · intro readable
    exact ⟨readable.ports, readable.records, readable.profiles, readable.devices, readable.digest⟩

theorem decodeOutcome_encoded (few : outcome.details.length ≤ maxOutcomeDetails)
    (encoded : encodeOutcome outcome = .ok bytes) :
    decodeOutcome bytes = .ok outcome.received.normalised := by
  obtain ⟨written, _⟩ := encodeOutcome_eq_ok.mp encoded
  exact decodeOutcome_eq_ok.mpr
    ⟨outcome.received, few, rfl, bytes, [], written, (List.append_nil bytes).symm⟩

/-- What is read of an encoded response is the response, when it is readable at all. -/
theorem decodeQueryResponse_encoded
    (few : response.outcome.details.length ≤ maxOutcomeDetails)
    (encoded : encodeQueryResponse response = .ok bytes) :
    decodeQueryResponse bytes = .ok response.read ↔ response.Readable := by
  obtain ⟨_, written, _⟩ := encodeQueryResponse_eq_ok.mp encoded
  rw [decodeQueryResponse_eq_ok, QueryResponse.readable_read]
  exact and_iff_left ⟨response.outcome.received, few, rfl, written⟩

theorem encodeQueryResponse_text {payload : Text}
    (encoded : encodeQueryResponse response = .ok payload) :
    response.text.length ≤ maxQueryTextBytes := by
  obtain ⟨_, written, _⟩ := encodeQueryResponse_eq_ok.mp encoded
  have whole := Layout.whole_iff.mpr ⟨payload, written⟩
  simp only [ByteLayout.queryResponse, ByteLayout.responseContent, List.flatten_cons,
    Layout.whole_append, ByteLayout.whole_text] at whole
  exact whole.2.2.2.2.2.2.1

theorem encodeQueryResponse_bounded {payload : Text}
    (encoded : encodeQueryResponse response = .ok payload) : payload.length ≤ maxFrameBytes :=
  (encodeQueryResponse_eq_ok.mp encoded).2.2

/-- What fits a frame is within the bounds of the reader. -/
theorem lists_bounded (encoded : encodeQueryResponse response = .ok bytes) :
    response.records.length ≤ maxSnapshotPorts ∧ response.profiles.length ≤ maxProfiles ∧
      response.devices.length ≤ maxDevices := by
  obtain ⟨_, written, bounded⟩ := encodeQueryResponse_eq_ok.mp encoded
  have whole := Layout.whole_iff.mpr ⟨bytes, written⟩
  rw [Layout.length_document written] at bounded
  simp only [ByteLayout.queryResponse, ByteLayout.responseContent, List.flatten_cons,
    Layout.whole_append, ByteLayout.whole_list] at whole
  simp only [ByteLayout.queryResponse, ByteLayout.responseContent, List.flatten_cons,
    Layout.size_append, ByteLayout.size_list] at bounded
  obtain ⟨_, _, _, _, defined, _⟩ := whole
  have records : 4 * response.records.length ≤
      Layout.size (response.records.flatMap ByteLayout.record) :=
    Layout.le_size_flatMap fun _ _ => ByteLayout.size_record
  have profiles : 16 * response.profiles.length ≤
      Layout.size (response.profiles.flatMap ByteLayout.profile) :=
    Layout.le_size_flatMap fun profile member => ByteLayout.size_profile (defined profile member)
  have devices : 4 * response.devices.length ≤
      Layout.size (response.devices.flatMap ByteLayout.device) :=
    Layout.le_size_flatMap fun _ _ => ByteLayout.size_device
  simp only [QueryResponse.received, maxFrameBytes] at bounded
  simp only [maxSnapshotPorts, maxProfiles, maxDevices]
  omega

/-- An encoded response is readable when everything it lists is. -/
theorem readable_iff_of_encoded (digest : response.digest.length = 32)
    (encoded : encodeQueryResponse response = .ok bytes) :
    response.Readable ↔ (∀ record ∈ response.records, record.Readable) ∧
      (∀ profile ∈ response.profiles,
        profile.validate = .ok () ∧ profile.configuration.Canonical) ∧
      ∀ device ∈ response.devices, (device.device.valid && device.generation.valid) = true := by
  obtain ⟨records, profiles, devices⟩ := lists_bounded encoded
  have ports := (encodeQueryResponse_eq_ok.mp encoded).1
  constructor
  · intro readable
    exact ⟨readable.records.2, fun profile member =>
      PortProfile.readable_iff.mp (readable.profiles.2 profile member), readable.devices.2⟩
  · intro given
    rcases given with ⟨recorded, defined, bound⟩
    exact ⟨ports, ⟨records, recorded⟩, ⟨profiles, fun profile member =>
      PortProfile.readable_iff.mpr (defined profile member)⟩, ⟨devices, bound⟩, digest⟩

end Encoded

end PortFabric
