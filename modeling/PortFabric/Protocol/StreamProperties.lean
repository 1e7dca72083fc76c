import PortFabric.Protocol.ReceiveProperties
import PortFabric.Protocol.Session

/-!
# Properties of streams

Frames sent one behind another, cut into pieces in any way: the receiver takes
them apart again, whatever stands behind them, and never sees part of a frame.
-/

set_option autoImplicit false

namespace PortFabric

namespace Connection

/-- Nothing more arrives: the stream is closed or has failed. -/
def Over : Connection → Prop
  | [] => True
  | arrival :: _ => ∃ error, arrival = .failed error

end Connection

section Exact

variable (closed : Text) {front back : Connection} {bytes : Text} {length : Nat}

/-- A stream that is over before the bytes are complete yields none of them. -/
theorem receiveExact_short (carried : front.Carries bytes) (closing : back.Over)
    (short : bytes.length < length) :
    ∃ error, receiveExact closed length (front ++ back) = .error error := by
  induction front generalizing bytes length with
  | nil =>
      cases length with
      | zero => exact absurd short (Nat.not_lt_zero _)
      | succ length =>
          cases back with
          | nil => exact ⟨closed, rfl⟩
          | cons arrival rest =>
              obtain ⟨error, rfl⟩ := closing
              exact ⟨error, rfl⟩
  | cons arrival rest ih =>
      cases length with
      | zero => exact absurd short (Nat.not_lt_zero _)
      | succ length =>
          cases arrival with
          | failed error => exact carried.elim
          | bytes chunk =>
              obtain ⟨present, more, rfl, carried⟩ := carried
              rw [List.length_append] at short
              have visible : chunk.isEmpty = false := by
                simpa using present
              have within : ¬chunk.length > length + 1 := by omega
              obtain ⟨error, lost⟩ := ih carried
                (by omega : more.length < length + 1 - chunk.length)
              refine ⟨error, ?_⟩
              simp only [List.cons_append, receiveExact, visible, Bool.false_eq_true, if_false,
                if_neg within, lost]

end Exact

namespace Frame

/-- The bytes of frames sent one behind another. -/
def stream (frames : List Frame) : Text :=
  frames.flatMap document

variable {frame : Frame}

theorem length_head (frame : Frame) :
    (frame.header.bytes ++ checksum frame.header.bytes).length = frameHeaderSize := by
  rw [List.length_append, frame.header.length_bytes, detects_checksum.length]
  rfl

theorem Sendable.length_document (sendable : frame.Sendable) :
    frame.document.length = frameHeaderSize + frame.payload.length := by
  rw [sendable.document_eq, List.length_append, length_head]

theorem Sendable.decode_head (sendable : frame.Sendable) :
    decodeFrameHeader (frame.header.bytes ++ checksum frame.header.bytes) = .ok frame.header :=
  decodeFrameHeader_eq_ok.mpr
    ⟨rfl, sendable.type, by rw [sendable.header_length]; exact sendable.bounded, rfl⟩

end Frame

section Frames

variable (closed : Text) {front back : Connection} {bytes more : Text} {frame : Frame}

/-- The payload that a header announces is received behind it. -/
theorem receivePayload_append (back : Connection) (sendable : frame.Sendable)
    (carried : front.Carries (frame.payload ++ more)) :
    ∃ rest, receivePayload closed frame.header (front ++ back) =
        .ok (frame.payload, rest ++ back) ∧ rest.Carries more := by
  have whole : frame.header.payloadLength.toNat = frame.payload.length := sendable.header_length
  have enough : frame.payload.length ≤ (frame.payload ++ more).length := by
    rw [List.length_append]
    exact Nat.le_add_right _ _
  obtain ⟨rest, payload, left⟩ := receiveExact_append closed back carried enough
  rw [List.take_left' rfl] at payload
  rw [List.drop_left' rfl] at left
  have sound : decide (crc32 frame.payload = frame.header.payloadCrc) = true := decide_eq_true rfl
  by_cases filled : frame.payload.length > 0
  · refine ⟨rest, ?_, left⟩
    simp only [receivePayload, whole, if_pos filled, payload, Checks.require, sound, if_true]
  · have empty : frame.payload = [] := List.length_eq_zero_iff.mp (by omega)
    rw [empty] at carried ⊢
    refine ⟨front, ?_, carried⟩
    simp only [receivePayload, whole, if_neg filled]

/-- A whole frame at the head of a stream is received, and what follows it is left. -/
theorem receive_document (back : Connection) (sendable : frame.Sendable)
    (carried : front.Carries (frame.document ++ more)) :
    ∃ rest, receive closed (front ++ back) = .ok (frame, rest ++ back) ∧ rest.Carries more := by
  have size := frame.length_head
  rw [sendable.document_eq, List.append_assoc] at carried
  have enough : frameHeaderSize ≤ (frame.header.bytes ++ checksum frame.header.bytes ++
      (frame.payload ++ more)).length := by
    rw [List.length_append, size]
    exact Nat.le_add_right _ _
  obtain ⟨behind, header, carries⟩ := receiveExact_append closed back carried enough
  rw [List.take_left' size] at header
  rw [List.drop_left' size] at carries
  obtain ⟨rest, payload, left⟩ := receivePayload_append closed back sendable carries
  refine ⟨rest, ?_, left⟩
  simp only [receive, header, sendable.decode_head, payload]
  rfl

/-- Part of a frame at the end of a stream is not received. -/
theorem receive_cut (sendable : frame.Sendable) (part : bytes <+: frame.document)
    (short : bytes.length < frame.document.length) (carried : front.Carries bytes)
    (closing : back.Over) :
    ∃ error, receive closed (front ++ back) = .error (.lost error) := by
  have size := frame.length_head
  rw [sendable.length_document] at short
  by_cases headless : bytes.length < frameHeaderSize
  · obtain ⟨error, lost⟩ := receiveExact_short closed carried closing headless
    exact ⟨error, by simp only [receive, lost]⟩
  · obtain ⟨rest, header, carries⟩ := receiveExact_append closed back carried
      (Nat.not_lt.mp headless)
    have head : bytes.take frameHeaderSize =
        frame.header.bytes ++ checksum frame.header.bytes := by
      obtain ⟨tail, same⟩ := part
      rw [sendable.document_eq] at same
      have within : bytes.take frameHeaderSize = (bytes ++ tail).take frameHeaderSize :=
        (List.take_append_of_le_length (Nat.not_lt.mp headless)).symm
      rw [within, same, List.take_left' size]
    rw [head] at header
    have whole : frame.header.payloadLength.toNat = frame.payload.length := sendable.header_length
    obtain ⟨error, lost⟩ := receiveExact_short closed carries closing
      (by rw [List.length_drop]; omega :
        (bytes.drop frameHeaderSize).length < frame.payload.length)
    refine ⟨error, ?_⟩
    have filled : frame.payload.length > 0 := by omega
    simp only [receive, header, sendable.decode_head, receivePayload, whole, if_pos filled, lost]

end Frames

end PortFabric
