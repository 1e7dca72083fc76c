import PortFabric.Checksum
import PortFabric.Protocol.Frame

/-!
# Properties of the frame codec

The encoder and the decoder describe one set of byte strings: the sealed
documents of the frames with a declared type and a bounded payload.
-/

set_option autoImplicit false

namespace PortFabric

open Formats

theorem MessageType.ofCode_eq_some {code : Nat} {type : MessageType} :
    MessageType.ofCode code = some type ↔ type.isValid = true ∧ type.code = code := by
  constructor
  · intro found
    unfold MessageType.ofCode at found
    split at found <;> cases found <;> exact ⟨rfl, rfl⟩
  · intro given
    rcases given with ⟨valid, rfl⟩
    cases type <;> first | rfl | cases valid

theorem MessageType.code_lt {type : MessageType} (valid : type.isValid = true) :
    type.code < 2 ^ 16 := by
  cases type <;> first | decide | cases valid

theorem length_frameMagic : frameMagic.length = 4 := by
  decide

/-! ## Headers -/

namespace FrameFields

/-- The bytes of the fields in front of the header checksum. -/
def bytes (fields : FrameFields) : Text :=
  fields.magic ++ littleEndian 2 fields.version.toNat ++ littleEndian 2 fields.type.toNat ++
    littleEndian 2 fields.flags.toNat ++ littleEndian 2 fields.reserved.toNat ++
    littleEndian 8 fields.sequence.toNat ++ littleEndian 4 fields.payloadLength.toNat ++
    littleEndian 4 fields.payloadCrc.toNat

theorem length_bytes {fields : FrameFields} (magic : fields.magic.length = 4) :
    fields.bytes.length = 28 := by
  simp only [bytes, List.length_append, length_littleEndian, magic]

/-- The fields are read from exactly their own bytes. -/
theorem run_readFrameFields {fields : FrameFields} {input rest : Text} :
    readFrameFields.run input = .ok (fields, rest) ↔
      fields.magic.length = 4 ∧
        input = fields.bytes ++ littleEndian 4 fields.headerCrc.toNat ++ rest := by
  have reads : Reads (fun _ => True) readFrameFields
      (fun fields : FrameFields => [ [some fields.magic],
        ByteLayout.unsigned 2 fields.version.toNat, ByteLayout.unsigned 2 fields.type.toNat,
        ByteLayout.unsigned 2 fields.flags.toNat, ByteLayout.unsigned 2 fields.reserved.toNat,
        ByteLayout.unsigned 8 fields.sequence.toNat,
        ByteLayout.unsigned 4 fields.payloadLength.toNat,
        ByteLayout.unsigned 4 fields.payloadCrc.toNat,
        ByteLayout.unsigned 4 fields.headerCrc.toNat ].flatten)
      (fun fields => fields.magic.length = frameMagic.length ∧ True) := by
    unfold readFrameFields
    refine .field FrameFields.magic (ByteReader.reads_raw _) fun _ => ?_
    refine .free FrameFields.version ByteReader.reads_u16 fun _ => ?_
    refine .free FrameFields.type ByteReader.reads_u16 fun _ => ?_
    refine .free FrameFields.flags ByteReader.reads_u16 fun _ => ?_
    refine .free FrameFields.reserved ByteReader.reads_u16 fun _ => ?_
    refine .free FrameFields.sequence ByteReader.reads_u64 fun _ => ?_
    refine .free FrameFields.payloadLength ByteReader.reads_u32 fun _ => ?_
    refine .free FrameFields.payloadCrc ByteReader.reads_u32 fun _ => ?_
    refine .free FrameFields.headerCrc ByteReader.reads_u32 fun _ => ?_
    refine .done fun value => ?_
    cases value
    simp [and_assoc, eq_comm]
  rw [reads, length_frameMagic]
  simp [ByteLayout.unsigned, Layout.document, bytes]

end FrameFields

namespace FrameHeader

/-- The bytes of an accepted header in front of its checksum. -/
def bytes (header : FrameHeader) : Text :=
  frameMagic ++ littleEndian 2 header.version.toNat ++ littleEndian 2 header.type.code ++
    littleEndian 2 header.flags.toNat ++ littleEndian 2 0 ++
    littleEndian 8 header.sequence.toNat ++ littleEndian 4 header.payloadLength.toNat ++
    littleEndian 4 header.payloadCrc.toNat

theorem length_bytes (header : FrameHeader) : header.bytes.length = 28 := by
  simp only [bytes, List.length_append, length_littleEndian, length_frameMagic]

/-- The fields an accepted header is read as. -/
def fields (header : FrameHeader) : FrameFields where
  magic := frameMagic
  version := header.version
  type := UInt16.ofNat header.type.code
  flags := header.flags
  reserved := 0
  sequence := header.sequence
  payloadLength := header.payloadLength
  payloadCrc := header.payloadCrc
  headerCrc := crc32 header.bytes

variable {header : FrameHeader}

theorem fields_type (valid : header.type.isValid = true) :
    header.fields.type.toNat = header.type.code :=
  UInt16.toNat_ofNat_of_lt' (MessageType.code_lt valid)

theorem bytes_fields (valid : header.type.isValid = true) :
    header.fields.bytes = header.bytes := by
  rw [FrameFields.bytes, fields_type valid]
  rfl

theorem run_fields (valid : header.type.isValid = true) :
    readFrameFields.run (header.bytes ++ checksum header.bytes) = .ok (header.fields, []) := by
  apply FrameFields.run_readFrameFields.mpr
  rw [bytes_fields valid, List.append_nil]
  exact ⟨length_frameMagic, rfl⟩

end FrameHeader

/-- The header decoder accepts exactly the bytes of an acceptable header and their checksum. -/
theorem decodeFrameHeader_eq_ok {bytes : Text} {header : FrameHeader} :
    decodeFrameHeader bytes = .ok header ↔
      header.version = protocolVersion ∧ header.type.isValid = true ∧
        header.payloadLength.toNat ≤ maxFrameBytes ∧
        bytes = header.bytes ++ checksum header.bytes := by
  constructor
  · intro decoded
    simp only [decodeFrameHeader, Checks.require_eq_ok, decide_eq_true_eq] at decoded
    obtain ⟨size, magic, decoded⟩ := decoded
    split at decoded
    · cases decoded
    · next fields rest read =>
        simp only [Checks.require_eq_ok, decide_eq_true_eq] at decoded
        obtain ⟨integrity, version, decoded⟩ := decoded
        split at decoded
        · cases decoded
        · next type found =>
            simp only [Checks.require_eq_ok, Checks.refuseIf_eq_ok, decide_eq_true_eq,
              decide_eq_false_iff_not, gt_iff_lt, Nat.not_lt] at decoded
            obtain ⟨reserved, bounded, made⟩ := decoded
            cases made
            obtain ⟨valid, code⟩ := MessageType.ofCode_eq_some.mp found
            obtain ⟨four, rfl⟩ := FrameFields.run_readFrameFields.mp read
            have front := FrameFields.length_bytes four
            have empty : rest = [] := by
              simp only [List.length_append, length_littleEndian, front, frameHeaderSize] at size
              exact List.length_eq_zero_iff.mp (by omega)
            subst empty
            rw [List.append_nil] at magic integrity ⊢
            rw [show frameHeaderSize - 4 = 28 from rfl, List.take_left' front] at integrity
            have lead : fields.magic = frameMagic := by
              rw [← magic, length_frameMagic]
              simp only [FrameFields.bytes, List.append_assoc]
              exact (List.take_left' four).symm
            have same : fields.bytes = FrameHeader.bytes
                { version := fields.version, type, flags := fields.flags,
                  sequence := fields.sequence, payloadLength := fields.payloadLength,
                  payloadCrc := fields.payloadCrc } := by
              rw [FrameFields.bytes, lead, reserved, ← code]
              rfl
            refine ⟨version, valid, bounded, ?_⟩
            rw [← same, checksum, integrity]
  · intro given
    rcases given with ⟨version, valid, bounded, rfl⟩
    have size : (header.bytes ++ checksum header.bytes).length = frameHeaderSize := by
      rw [List.length_append, header.length_bytes, detects_checksum.length]
      rfl
    have magic : (header.bytes ++ checksum header.bytes).take frameMagic.length = frameMagic := by
      simp only [FrameHeader.bytes, List.append_assoc]
      exact List.take_left
    have front : (header.bytes ++ checksum header.bytes).take (frameHeaderSize - 4) =
        header.bytes := by
      exact List.take_left' (header.length_bytes)
    have type : MessageType.ofCode header.fields.type.toNat = some header.type := by
      rw [FrameHeader.fields_type valid]
      exact MessageType.ofCode_eq_some.mpr ⟨valid, rfl⟩
    simp only [decodeFrameHeader, Checks.require_eq_ok, Checks.refuseIf_eq_ok, size, magic,
      FrameHeader.run_fields valid, front, type, decide_true, true_and]
    refine ⟨decide_eq_true rfl, ?_, decide_eq_true rfl, ?_, rfl⟩
    · exact decide_eq_true version
    · exact decide_eq_false (Nat.not_lt.mpr bounded)

/-! ## Frames -/

namespace Frame

/-- What stands in the header in front of the payload checksum. -/
def front (frame : Frame) : Text :=
  frameMagic ++ littleEndian 2 protocolVersion.toNat ++ littleEndian 2 frame.type.code ++
    littleEndian 2 frame.flags.toNat ++ littleEndian 2 0 ++
    littleEndian 8 frame.sequence.toNat ++ littleEndian 4 frame.payload.length

theorem length_front (frame : Frame) : frame.front.length = 24 := by
  simp only [front, List.length_append, length_littleEndian, length_frameMagic]

/-- The wire form of a frame. -/
def document (frame : Frame) : Text := Sealing.document checksum frame.front frame.payload

/-- The frames the wire carries. -/
structure Sendable (frame : Frame) : Prop where
  type : frame.type.isValid = true
  bounded : frame.payload.length ≤ maxFrameBytes

variable {frame : Frame}

theorem Sendable.length_lt (sendable : frame.Sendable) : frame.payload.length < 2 ^ 32 :=
  Nat.lt_of_le_of_lt sendable.bounded (by decide)

/-- The header that announces a frame. -/
def header (frame : Frame) : FrameHeader where
  version := protocolVersion
  type := frame.type
  flags := frame.flags
  sequence := frame.sequence
  payloadLength := UInt32.ofNat frame.payload.length
  payloadCrc := crc32 frame.payload

theorem Sendable.header_length (sendable : frame.Sendable) :
    frame.header.payloadLength.toNat = frame.payload.length :=
  UInt32.toNat_ofNat_of_lt' sendable.length_lt

theorem Sendable.header_bytes (sendable : frame.Sendable) :
    frame.header.bytes = Sealing.head checksum frame.front frame.payload := by
  rw [FrameHeader.bytes, sendable.header_length]
  rfl

theorem Sendable.document_eq (sendable : frame.Sendable) :
    frame.document = frame.header.bytes ++ checksum frame.header.bytes ++ frame.payload := by
  rw [sendable.header_bytes]
  rfl

end Frame

/-- The front tells the length of the payload. -/
theorem Frame.length_of_front {frame other : Frame} (sendable : frame.Sendable)
    (acceptable : other.Sendable) (same : frame.front = other.front) :
    frame.payload.length = other.payload.length := by
  simp only [Frame.front, List.append_assoc] at same
  simp only [← List.append_assoc] at same
  obtain ⟨_, same⟩ := List.append_inj' same (by rw [length_littleEndian, length_littleEndian])
  exact littleEndian_inj sendable.length_lt acceptable.length_lt same

/-- The header of a frame in front of its own checksum, piece by piece. -/
def ByteLayout.frameHeader (frame : Frame) : ByteLayout :=
  [ [some frameMagic], unsigned 2 protocolVersion.toNat, unsigned 2 frame.type.code,
    unsigned 2 frame.flags.toNat, unsigned 2 0, unsigned 8 frame.sequence.toNat,
    unsigned 4 frame.payload.length, unsigned 4 (crc32 frame.payload).toNat ].flatten

theorem document_frameHeader (frame : Frame) :
    (ByteLayout.frameHeader frame).document =
      some (Sealing.head checksum frame.front frame.payload) := by
  simp [ByteLayout.frameHeader, Layout.document, ByteLayout.unsigned, Sealing.head, Frame.front,
    checksum]

theorem length_frameHead (frame : Frame) :
    (Sealing.head checksum frame.front frame.payload).length = 28 := by
  rw [Sealing.head, List.length_append, frame.length_front, detects_checksum.length]

/-- The header writer succeeds, whatever the frame is. -/
theorem writeFrameHeader_eq (frame : Frame) :
    writeFrameHeader frame =
      { out := Sealing.head checksum frame.front frame.payload, limit := frameHeaderSize } := by
  have sound : ({ limit := frameHeaderSize } : ByteWriter).Sound := ⟨rfl, Nat.zero_le _⟩
  have room : 0 + (Sealing.head checksum frame.front frame.payload).length ≤
      frameHeaderSize := by
    rw [length_frameHead]
    decide
  have emits : writeFrameHeader frame =
      ({ limit := frameHeaderSize } : ByteWriter).emit (ByteLayout.frameHeader frame) := by
    simp only [writeFrameHeader, ByteLayout.frameHeader, List.flatten_cons, List.flatten_nil,
      ByteWriter.emit_append, ByteWriter.emit_nil, ByteWriter.raw_eq_emit,
      ByteWriter.u16_eq_emit, ByteWriter.u32_eq_emit, ByteWriter.u64_eq_emit]
  rw [emits, sound.emit_eq (document_frameHeader frame) room]
  rfl

/-- The encoder produces exactly the wire form of a frame the wire carries. -/
theorem encodeFrame_eq_ok {frame : Frame} {bytes : Text} :
    encodeFrame frame = .ok bytes ↔ frame.Sendable ∧ bytes = frame.document := by
  have sound : ByteWriter.Sound
      { out := Sealing.head checksum frame.front frame.payload, limit := frameHeaderSize } := by
    refine ⟨rfl, ?_⟩
    rw [length_frameHead]
    exact (by decide : 28 ≤ frameHeaderSize)
  have room : (Sealing.head checksum frame.front frame.payload).length +
      (checksum (Sealing.head checksum frame.front frame.payload)).length ≤
        frameHeaderSize := by
    rw [length_frameHead, detects_checksum.length]
    decide
  obtain ⟨sealed, _⟩ := sound.raw_fits room
  rw [encodeFrame]
  split
  · next illegal =>
      refine iff_of_false nofun ?_
      intro given
      rcases given with ⟨sendable, _⟩
      rw [sendable.type] at illegal
      cases illegal
  · next legal =>
      split
      · next beyond =>
          refine iff_of_false nofun ?_
          intro given
          rcases given with ⟨sendable, _⟩
          exact absurd sendable.bounded (Nat.not_le.mpr beyond)
      · next bounded =>
          have sendable : frame.Sendable := ⟨by simpa using legal, Nat.not_lt.mp bounded⟩
          rw [writeFrameHeader_eq]
          dsimp only
          rw [if_neg (by decide), ByteWriter.u32, ← checksum, sealed]
          simp only [ByteWriter.appended, Bool.not_true, Bool.false_eq_true, if_false,
            Except.ok.injEq]
          constructor
          · intro same
            subst same
            exact ⟨sendable, rfl⟩
          · intro given
            rcases given with ⟨_, rfl⟩
            rfl

/-- The decoder accepts exactly the wire forms, each as its own frame. -/
theorem decodeFrame_eq_ok {frame : Frame} {bytes : Text} :
    decodeFrame bytes = .ok frame ↔ frame.Sendable ∧ bytes = frame.document := by
  simp only [decodeFrame, Checks.refuseIf_eq_ok, decide_eq_false_iff_not, Nat.not_lt]
  constructor
  · intro given
    rcases given with ⟨size, decoded⟩
    split at decoded
    · cases decoded
    · next header accepted =>
        simp only [Checks.require_eq_ok, decide_eq_true_eq] at decoded
        obtain ⟨length, integrity, made⟩ := decoded
        cases made
        obtain ⟨version, valid, bounded, front⟩ := decodeFrameHeader_eq_ok.mp accepted
        have announced : (bytes.drop frameHeaderSize).length = header.payloadLength.toNat := by
          rw [List.length_drop]
          omega
        have sendable : Frame.Sendable
            { type := header.type, flags := header.flags, sequence := header.sequence,
              payload := bytes.drop frameHeaderSize } :=
          ⟨valid, Nat.le_trans (Nat.le_of_eq announced) bounded⟩
        have same : Frame.header
            { type := header.type, flags := header.flags, sequence := header.sequence,
              payload := bytes.drop frameHeaderSize } = header := by
          rw [Frame.header, announced, UInt32.ofNat_toNat, integrity, ← version]
        refine ⟨sendable, ?_⟩
        rw [sendable.document_eq, same, ← front, List.take_append_drop]
  · intro given
    rcases given with ⟨sendable, rfl⟩
    have size : (frame.header.bytes ++ checksum frame.header.bytes).length = frameHeaderSize := by
      rw [List.length_append, FrameHeader.length_bytes, detects_checksum.length]
      rfl
    have accepted : decodeFrameHeader (frame.header.bytes ++ checksum frame.header.bytes) =
        .ok frame.header := by
      refine decodeFrameHeader_eq_ok.mpr ⟨rfl, sendable.type, ?_, rfl⟩
      rw [sendable.header_length]
      exact sendable.bounded
    rw [sendable.document_eq, List.take_left' size, List.drop_left' size, accepted]
    simp only [Checks.require_eq_ok, List.length_append, sendable.header_length]
    rw [List.length_append] at size
    refine ⟨by omega, by simp [size], decide_eq_true rfl, rfl⟩

end PortFabric
