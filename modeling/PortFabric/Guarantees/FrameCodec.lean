import PortFabric.Protocol.ReceiveProperties

/-!
# Frame codec agreement

The whole-buffer decoder accepts exactly what the encoder produces. The two
stream receivers agree with it except on an empty payload: they receive nothing
for it and never look at its checksum.
-/

set_option autoImplicit false

namespace PortFabric

/-- The decoder accepts exactly the image of the encoder. -/
theorem decodeFrame_iff_encodeFrame {bytes : Text} {frame : Frame} :
    decodeFrame bytes = .ok frame ↔ encodeFrame frame = .ok bytes := by
  rw [decodeFrame_eq_ok, encodeFrame_eq_ok]

section Receivers

/-- What the client makes of a received frame: an error response is reported as its error. -/
def responseOf (expected : MessageType) (frame : Frame) :
    Except ResponseFailure (Frame × Connection) :=
  if expected ≠ .heartbeat ∧ frame.type = .errorResponse then
    .error (.refused (errorResponseText frame.payload))
  else
    .ok (frame, [])

/-- The serve loop receives the bytes as the frame the decoder sees in them, or refuses both. -/
def ServerAgrees (bytes : Text) (connection : Connection) : Prop :=
  match decodeFrame bytes with
  | .ok frame => serveReceive connection = .ok (frame, [])
  | .error _ => ∃ failure, serveReceive connection = .error failure

/-- So does the client, which hands out the frame or the error it carries. -/
def ClientAgrees (expected : MessageType) (bytes : Text) (connection : Connection) : Prop :=
  match decodeFrame bytes with
  | .ok frame => receiveFrame expected connection = responseOf expected frame
  | .error _ => ∃ failure, receiveFrame expected connection = .error (.transport failure)

/-- A bare header of a legal type whose payload is empty but whose payload checksum is not. -/
def UncheckedEmpty (bytes : Text) : Prop :=
  ∃ header : FrameHeader, header.version = protocolVersion ∧ header.type.isValid = true ∧
    header.payloadLength = 0 ∧ header.payloadCrc ≠ 0 ∧
    bytes = header.bytes ++ checksum header.bytes

variable {bytes : Text} {connection : Connection}

theorem crc32_nil : crc32 [] = 0 := by
  decide

/-- The decoder and the receivers differ on exactly the unchecked empty payloads. -/
theorem uncheckedEmpty_iff (announced : Announced bytes) :
    UncheckedEmpty bytes ↔
      ∃ header, decodeFrameHeader (bytes.take frameHeaderSize) = .ok header ∧
        bytes.drop frameHeaderSize = [] ∧
        crc32 (bytes.drop frameHeaderSize) ≠ header.payloadCrc := by
  constructor
  · intro given
    rcases given with ⟨header, version, type, none, unchecked, rfl⟩
    have size : (header.bytes ++ checksum header.bytes).length = frameHeaderSize := by
      rw [List.length_append, header.length_bytes, detects_checksum.length]
      rfl
    rw [List.take_of_length_le (Nat.le_of_eq size), List.drop_eq_nil_of_le (Nat.le_of_eq size)]
    refine ⟨header, decodeFrameHeader_eq_ok.mpr ⟨version, type, ?_, rfl⟩, rfl, ?_⟩
    · rw [none]
      exact Nat.zero_le _
    · rw [crc32_nil]
      exact Ne.symm unchecked
  · intro given
    rcases given with ⟨header, accepted, empty, unchecked⟩
    have length := announced.payloadLength accepted
    obtain ⟨version, type, _, front⟩ := decodeFrameHeader_eq_ok.mp accepted
    rw [empty, crc32_nil] at unchecked
    rw [empty] at length
    refine ⟨header, version, type, UInt32.toNat_inj.mp length.symm, Ne.symm unchecked, ?_⟩
    rw [← front, ← List.append_nil (bytes.take frameHeaderSize), ← empty,
      List.take_append_drop]

theorem not_serverAgrees (announced : Announced bytes) (carried : connection.Carries bytes)
    (unchecked : UncheckedEmpty bytes) : ¬ServerAgrees bytes connection := by
  obtain ⟨header, accepted, empty, unsound⟩ := (uncheckedEmpty_iff announced).mp unchecked
  -- the receiver takes the frame, the decoder refuses it
  rw [empty] at unsound
  simp [ServerAgrees, serveReceive, receive_carried _ announced carried,
    decodeFrame_announced announced, accepted, empty, unsound]

/-- Both receivers agree with the decoder unless an empty payload goes unchecked. -/
theorem receivers_agree_iff (announced : Announced bytes) (carried : connection.Carries bytes)
    (expected : MessageType) :
    (ServerAgrees bytes connection ∧ ClientAgrees expected bytes connection) ↔
      ¬UncheckedEmpty bytes := by
  constructor
  · intro given unchecked
    rcases given with ⟨server, _⟩
    exact not_serverAgrees announced carried unchecked server
  · intro checked
    rw [uncheckedEmpty_iff announced] at checked
    simp only [ServerAgrees, ClientAgrees, serveReceive, receiveFrame,
      receive_carried _ announced carried, decodeFrame_announced announced]
    cases accepted : decodeFrameHeader (bytes.take frameHeaderSize) with
    | error outcome => simp
    | ok header =>
        by_cases sound : crc32 (bytes.drop frameHeaderSize) = header.payloadCrc
        · simp [sound, responseOf]
        · have filled : bytes.drop frameHeaderSize ≠ [] :=
            fun empty => checked ⟨header, accepted, empty, sound⟩
          simp [sound, filled]

end Receivers

namespace BareHeader

/-- A heartbeat header whose checksum field does not belong to the empty payload. -/
def unchecked : FrameHeader where
  version := protocolVersion
  type := .heartbeat
  payloadCrc := 1

/-- The same heartbeat as the encoder writes it. -/
def checked : FrameHeader :=
  { unchecked with payloadCrc := 0 }

def wire (header : FrameHeader) : Text :=
  header.bytes ++ checksum header.bytes

set_option maxRecDepth 100000 in
theorem announced : Announced (wire unchecked) ∧ Announced (wire checked) := by
  refine ⟨⟨?_, ?_⟩, ?_, ?_⟩ <;> decide +kernel

theorem carried (header : FrameHeader) :
    Connection.Carries [.bytes (wire header)] (wire header) := by
  refine ⟨?_, [], (List.append_nil _).symm, rfl⟩
  rw [← List.length_pos_iff, wire, List.length_append, header.length_bytes]
  exact Nat.zero_lt_of_ne_zero (Nat.succ_ne_zero _)

/-- A checked header is received by both sides as the decoder reads it. -/
theorem checked_agrees :
    ServerAgrees (wire checked) [.bytes (wire checked)] ∧
      ClientAgrees .heartbeatAck (wire checked) [.bytes (wire checked)] := by
  refine (receivers_agree_iff announced.2 (carried checked) .heartbeatAck).mpr ?_
  intro given
  rcases given with ⟨header, version, type, none, unchecked, same⟩
  have accepted : decodeFrameHeader (wire checked) = .ok header := by
    refine decodeFrameHeader_eq_ok.mpr ⟨version, type, ?_, same⟩
    rw [none]
    exact Nat.zero_le _
  have itself : decodeFrameHeader (wire checked) = .ok checked :=
    decodeFrameHeader_eq_ok.mpr ⟨rfl, rfl, Nat.zero_le _, rfl⟩
  obtain rfl : header = checked := Except.ok.inj (accepted.symm.trans itself)
  exact unchecked rfl

/-- The receivers do not always agree with the decoder. -/
theorem receivers_disagree :
    ¬∀ (bytes : Text) (connection : Connection) (expected : MessageType), Announced bytes →
      connection.Carries bytes →
        ServerAgrees bytes connection ∧ ClientAgrees expected bytes connection := by
  intro agree
  -- the fixed bytes are hidden again, lest they be evaluated
  obtain ⟨bytes, connection, announced, carried, empty⟩ : ∃ (bytes : Text)
      (connection : Connection), Announced bytes ∧ connection.Carries bytes ∧
        UncheckedEmpty bytes :=
    ⟨wire unchecked, [.bytes (wire unchecked)], announced.1, carried unchecked, unchecked, rfl,
      rfl, rfl, by decide, rfl⟩
  exact not_serverAgrees announced carried empty
    (agree bytes connection .heartbeatAck announced carried).1

end BareHeader

end PortFabric
