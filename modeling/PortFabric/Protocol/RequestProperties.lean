import PortFabric.Protocol.MessageProperties
import PortFabric.Survival

/-!
# Properties of requests

The messages with a fixed layout: a session is opened, a publisher registered or
fenced and the engine queried with exactly what the peer encoded.
-/

set_option autoImplicit false

namespace PortFabric

open Formats ByteReader

namespace ByteLayout

def hello (message : HelloMessage) : ByteLayout :=
  [ unsigned 2 message.version.toNat, id message.publisher, id message.boot,
    generation message.epoch, text message.role maxNameLength ].flatten

def helloAck (message : HelloAckMessage) : ByteLayout :=
  [ boolean message.accepted, generation message.epoch,
    text message.detail maxDescriptionLength ].flatten

def registerPublisher (message : RegisterPublisherMessage) : ByteLayout :=
  [ id message.publisher, id message.boot, generation message.epoch ].flatten

def fence (message : FenceMessage) : ByteLayout :=
  [ id message.publisher, id message.boot, text message.detail maxDescriptionLength ].flatten

def query (message : QueryMessage) : ByteLayout :=
  [ unsigned 1 message.kind.byte, id message.port, id message.device, id message.owner,
    id message.profile, unsigned 1 message.lifecycle.byte,
    unsigned 1 message.administrative.byte ].flatten

end ByteLayout

section Writing

variable {writer : ByteWriter}

theorem writeHello_eq_emit (message : HelloMessage) :
    writer.writeHello message = writer.emit (ByteLayout.hello message) := by
  simp only [ByteWriter.writeHello, ByteLayout.hello, List.flatten_cons, List.flatten_nil,
    ByteWriter.emit_append, ByteWriter.emit_nil, ByteWriter.u16_eq_emit,
    ByteWriter.writeId_eq_emit, ByteWriter.generation_eq_emit, ByteWriter.text_eq_emit]

theorem writeHelloAck_eq_emit (message : HelloAckMessage) :
    writer.writeHelloAck message = writer.emit (ByteLayout.helloAck message) := by
  simp only [ByteWriter.writeHelloAck, ByteLayout.helloAck, List.flatten_cons, List.flatten_nil,
    ByteWriter.emit_append, ByteWriter.emit_nil, ByteWriter.boolean_eq_emit,
    ByteWriter.generation_eq_emit, ByteWriter.text_eq_emit]

theorem writeRegisterPublisher_eq_emit (message : RegisterPublisherMessage) :
    writer.writeRegisterPublisher message =
      writer.emit (ByteLayout.registerPublisher message) := by
  simp only [ByteWriter.writeRegisterPublisher, ByteLayout.registerPublisher, List.flatten_cons,
    List.flatten_nil, ByteWriter.emit_append, ByteWriter.emit_nil, ByteWriter.writeId_eq_emit,
    ByteWriter.generation_eq_emit]

theorem writeFence_eq_emit (message : FenceMessage) :
    writer.writeFence message = writer.emit (ByteLayout.fence message) := by
  simp only [ByteWriter.writeFence, ByteLayout.fence, List.flatten_cons, List.flatten_nil,
    ByteWriter.emit_append, ByteWriter.emit_nil, ByteWriter.writeId_eq_emit,
    ByteWriter.text_eq_emit]

theorem writeQuery_eq_emit (message : QueryMessage) :
    writer.writeQuery message = writer.emit (ByteLayout.query message) := by
  simp only [ByteWriter.writeQuery, ByteLayout.query, List.flatten_cons, List.flatten_nil,
    ByteWriter.emit_append, ByteWriter.emit_nil, ByteWriter.u8_eq_emit,
    ByteWriter.writeId_eq_emit]

end Writing

section Encodability

/-- A layout that is whole and small enough is written. -/
theorem payload_of_whole {write : ByteWriter → ByteWriter} {error : Outcome} {layout : ByteLayout}
    (emits : ∀ writer : ByteWriter, write writer = writer.emit layout) (whole : layout.Whole)
    (small : Layout.size layout ≤ maxFrameBytes) :
    ∃ bytes, ByteWriter.payload write error = .ok bytes := by
  obtain ⟨bytes, written⟩ := Layout.whole_iff.mp whole
  refine ⟨bytes, (ByteWriter.payload_eq_ok emits).mpr ⟨written, ?_⟩⟩
  rw [Layout.length_document written]
  exact small

theorem length_identity_le {domain : IdDomain} (identity : StrongId domain) :
    identity.value.length ≤ maxIdentifierLength :=
  ByteLayout.whole_text.mp ByteLayout.whole_id

theorem encodeHello_ok {message : HelloMessage} (short : message.role.length ≤ maxNameLength) :
    ∃ bytes, encodeHello message = .ok bytes := by
  have publisher := length_identity_le message.publisher
  have boot := length_identity_le message.boot
  refine payload_of_whole (fun _ => writeHello_eq_emit message) ?_ ?_
  · simp [ByteLayout.hello, short]
  · simp only [ByteLayout.hello, List.flatten_cons, List.flatten_nil, Layout.size_append,
      Layout.size_nil, ByteLayout.size_unsigned, ByteLayout.size_id, ByteLayout.size_generation,
      ByteLayout.size_text short]
    simp only [maxIdentifierLength, maxNameLength, maxFrameBytes] at *
    omega

theorem encodeRegisterPublisher_ok (message : RegisterPublisherMessage) :
    ∃ bytes, encodeRegisterPublisher message = .ok bytes := by
  have publisher := length_identity_le message.publisher
  have boot := length_identity_le message.boot
  refine payload_of_whole (fun _ => writeRegisterPublisher_eq_emit message) ?_ ?_
  · simp [ByteLayout.registerPublisher]
  · simp only [ByteLayout.registerPublisher, List.flatten_cons, List.flatten_nil,
      Layout.size_append, Layout.size_nil, ByteLayout.size_id, ByteLayout.size_generation]
    simp only [maxIdentifierLength, maxFrameBytes] at *
    omega

theorem encodeFence_ok {message : FenceMessage}
    (short : message.detail.length ≤ maxDescriptionLength) :
    ∃ bytes, encodeFence message = .ok bytes := by
  have publisher := length_identity_le message.publisher
  have boot := length_identity_le message.boot
  refine payload_of_whole (fun _ => writeFence_eq_emit message) ?_ ?_
  · simp [ByteLayout.fence, short]
  · simp only [ByteLayout.fence, List.flatten_cons, List.flatten_nil, Layout.size_append,
      Layout.size_nil, ByteLayout.size_id, ByteLayout.size_text short]
    simp only [maxIdentifierLength, maxDescriptionLength, maxFrameBytes] at *
    omega

theorem encodeQuery_ok (message : QueryMessage) : ∃ bytes, encodeQuery message = .ok bytes := by
  have port := length_identity_le message.port
  have device := length_identity_le message.device
  have owner := length_identity_le message.owner
  have profile := length_identity_le message.profile
  refine payload_of_whole (fun _ => writeQuery_eq_emit message) ?_ ?_
  · simp [ByteLayout.query]
  · simp only [ByteLayout.query, List.flatten_cons, List.flatten_nil, Layout.size_append,
      Layout.size_nil, ByteLayout.size_unsigned, ByteLayout.size_id]
    simp only [maxIdentifierLength, maxFrameBytes] at *
    omega

end Encodability

section Reading

theorem reads_hello :
    Reads (fun _ => True) readHello ByteLayout.hello (fun message => message.version = 1) := by
  unfold readHello ByteLayout.hello
  refine .free HelloMessage.version reads_u16.required fun version => ?_
  by_cases spoken : version = 1
  · subst spoken
    simp only [ne_eq, not_true_eq_false, if_false]
    refine Reads.agree ?_ fun message given => (iff_true_intro given.2).symm
    refine .free HelloMessage.publisher reads_strongId.required fun _ => ?_
    refine .free HelloMessage.boot reads_strongId.required fun _ => ?_
    refine .free HelloMessage.epoch reads_generation.required fun _ => ?_
    refine .free HelloMessage.role (reads_text _ (by decide)).required fun _ => ?_
    refine .done fun value => ?_
    cases value
    simp [and_assoc, eq_comm]
  · -- No message of another version is read.
    intro input value rest
    simp only [ne_eq, spoken, not_false_eq_true, if_true, run_bind_ok]
    refine iff_of_false ?_ ?_
    · intro given
      rcases given with ⟨_, _, read, _⟩
      exact run_throw_ne_ok read
    · intro given
      rcases given with ⟨⟨_, same⟩, expected, _⟩
      exact spoken (same.symm.trans expected)

theorem reads_helloAck :
    Reads (fun _ => True) readHelloAck ByteLayout.helloAck fun _ => True := by
  unfold readHelloAck ByteLayout.helloAck
  refine .free HelloAckMessage.accepted reads_boolean.required fun _ => ?_
  refine .free HelloAckMessage.epoch reads_generation.required fun _ => ?_
  refine .free HelloAckMessage.detail (reads_text _ (by decide)).required fun _ => ?_
  refine .done fun value => ?_
  cases value
  simp [and_assoc, eq_comm]

theorem reads_registerPublisher :
    Reads (fun _ => True) readRegisterPublisher ByteLayout.registerPublisher fun _ => True := by
  unfold readRegisterPublisher ByteLayout.registerPublisher
  refine .free RegisterPublisherMessage.publisher reads_strongId.required fun _ => ?_
  refine .free RegisterPublisherMessage.boot reads_strongId.required fun _ => ?_
  refine .free RegisterPublisherMessage.epoch reads_generation.required fun _ => ?_
  refine .done fun value => ?_
  cases value
  simp [and_assoc, eq_comm]

theorem reads_fence : Reads (fun _ => True) readFence ByteLayout.fence fun _ => True := by
  unfold readFence ByteLayout.fence
  refine .free FenceMessage.publisher reads_strongId.required fun _ => ?_
  refine .free FenceMessage.boot reads_strongId.required fun _ => ?_
  refine .free FenceMessage.detail (reads_text _ (by decide)).required fun _ => ?_
  refine .done fun value => ?_
  cases value
  simp [and_assoc, eq_comm]

/-- A byte is looked up as the value it is written for. -/
theorem ofByte_toNat_eq_some (α : Type) [WireEnum α] {raw : UInt8} {value : α} :
    WireEnum.ofByte raw.toNat = some value ↔
      WireEnum.isValid value = true ∧ UInt8.ofNat (WireEnum.byte value) = raw := by
  rw [WireEnum.ofByte_eq_some]
  refine and_congr_right fun valid => ?_
  constructor
  · intro same
    rw [same, UInt8.ofNat_toNat]
  · intro same
    rw [← same]
    exact (UInt8.toNat_ofNat_of_lt' (WireEnum.byte_lt value valid)).symm

/-- A query is read when its administrative state is a declared one. -/
theorem reads_query :
    Reads (fun _ => True) readQuery ByteLayout.query
      (fun message => message.administrative.isValid = true) := by
  unfold readQuery ByteLayout.query
  refine .free QueryMessage.kind (reads_queryKind _ _) fun kind => ?_
  refine .free QueryMessage.port reads_strongId.required fun port => ?_
  refine .free QueryMessage.device reads_strongId.required fun device => ?_
  refine .free QueryMessage.owner reads_strongId.required fun owner => ?_
  refine .free QueryMessage.profile reads_strongId.required fun profile => ?_
  -- The two states travel as bytes, which are looked up together at the end.
  have written : ∀ message : QueryMessage,
      [ ByteLayout.unsigned 1 (UInt8.ofNat message.lifecycle.byte).toNat,
        ByteLayout.unsigned 1 (UInt8.ofNat message.administrative.byte).toNat ].flatten =
        [ ByteLayout.unsigned 1 message.lifecycle.byte,
          ByteLayout.unsigned 1 message.administrative.byte ].flatten := by
    intro message
    simp only [unsigned_one_mod]
  refine Reads.congr ?_ written fun _ => Iff.rfl
  refine .free (fun message : QueryMessage => UInt8.ofNat message.lifecycle.byte)
    reads_u8.required fun lifecycle => ?_
  refine .free (fun message : QueryMessage => UInt8.ofNat message.administrative.byte)
    reads_u8.required fun administrative => ?_
  refine .made fun input value rest => ?_
  have stored : ∀ state, PortLifecycle.ofByte lifecycle.toNat = some state ↔
      UInt8.ofNat state.byte = lifecycle := by
    intro state
    have found : PortLifecycle.ofByte lifecycle.toNat = some state ↔
        state.isValid = true ∧ UInt8.ofNat state.byte = lifecycle :=
      ofByte_toNat_eq_some PortLifecycle
    exact found.trans (and_iff_right rfl)
  have governed : ∀ state, AdministrativeState.ofByte administrative.toNat = some state ↔
      state.isValid = true ∧ UInt8.ofNat state.byte = administrative :=
    fun state => ofByte_toNat_eq_some AdministrativeState
  cases first : PortLifecycle.ofByte lifecycle.toNat with
  | none =>
      refine iff_of_false run_throw_ne_ok fun given => ?_
      have known := (stored value.lifecycle).mpr given.1.1.2
      rw [first] at known
      cases known
  | some state =>
      cases second : AdministrativeState.ofByte administrative.toNat with
      | none =>
          refine iff_of_false run_throw_ne_ok fun given => ?_
          have known := (governed value.administrative).mpr ⟨given.2.1, given.1.2⟩
          rw [second] at known
          cases known
      | some governs =>
          obtain ⟨valid, byte⟩ := (governed governs).mp second
          rw [run_pure_ok]
          constructor
          · intro given
            obtain ⟨rfl, rfl⟩ := given
            exact ⟨by simp [(stored state).mp first, byte], valid, rfl⟩
          · intro given
            obtain ⟨⟨kept, same⟩, declared, rest⟩ := given
            obtain ⟨kind, port, device, owner, profile, lifecycle, administrative⟩ := value
            have named := (stored lifecycle).mpr kept.2
            have ruled := (governed administrative).mpr ⟨declared, same⟩
            rw [first] at named
            rw [second] at ruled
            cases named
            cases ruled
            refine ⟨?_, rest⟩
            simp at kept
            simp [kept]

end Reading

section RoundTrips

variable {bytes : Text}

/-- A message whose payload leads the input is read back. -/
theorem leading_of_reads {α : Type} {reader : MessageReader α} {layout : α → ByteLayout}
    {legal : α → Prop} (reads : Reads (fun _ => True) reader layout legal) {value : α}
    (accepted : legal value) (written : (layout value).document = some bytes) :
    reader.leading bytes = .ok value :=
  MessageReader.leading_eq_ok.mpr
    ⟨[], (reads _ _ _).mpr ⟨trivial, accepted, bytes, written, (List.append_nil bytes).symm⟩⟩

theorem decodeHello_encoded {message : HelloMessage} (spoken : message.version = 1)
    (encoded : encodeHello message = .ok bytes) : decodeHello bytes = .ok message :=
  (MessageReader.whole_of_reads reads_hello).mpr
    ⟨spoken, ((ByteWriter.payload_eq_ok fun _ => writeHello_eq_emit message).mp encoded).1⟩

theorem decodeHelloAck_encoded {message : HelloAckMessage}
    (encoded : encodeHelloAck message = .ok bytes) : decodeHelloAck bytes = .ok message :=
  leading_of_reads reads_helloAck trivial
    ((ByteWriter.payload_eq_ok fun _ => writeHelloAck_eq_emit message).mp encoded).1

theorem decodeRegisterPublisher_encoded {message : RegisterPublisherMessage}
    (encoded : encodeRegisterPublisher message = .ok bytes) :
    decodeRegisterPublisher bytes = .ok message :=
  leading_of_reads reads_registerPublisher trivial
    ((ByteWriter.payload_eq_ok fun _ => writeRegisterPublisher_eq_emit message).mp encoded).1

theorem decodeFence_encoded {message : FenceMessage}
    (encoded : encodeFence message = .ok bytes) : decodeFence bytes = .ok message :=
  leading_of_reads reads_fence trivial
    ((ByteWriter.payload_eq_ok fun _ => writeFence_eq_emit message).mp encoded).1

theorem decodeQuery_encoded {message : QueryMessage}
    (legal : message.administrative.isValid = true)
    (encoded : encodeQuery message = .ok bytes) : decodeQuery bytes = .ok message :=
  leading_of_reads reads_query legal
    ((ByteWriter.payload_eq_ok fun _ => writeQuery_eq_emit message).mp encoded).1

end RoundTrips

end PortFabric
