import PortFabric.Protocol.FrameProperties
import PortFabric.Protocol.Receive

/-!
# Properties of receiving

However a byte string is cut into pieces on its way, the receivers see the same
bytes. What they make of them is decided by the header and the payload alone.
-/

set_option autoImplicit false

namespace PortFabric

open Formats

namespace Connection

/-- The connection delivers exactly the bytes, in any pieces, and is then closed. -/
def Carries : Connection → Text → Prop
  | [], bytes => bytes = []
  | .failed _ :: _, _ => False
  | .bytes chunk :: rest, bytes => chunk ≠ [] ∧ ∃ more, bytes = chunk ++ more ∧ Carries rest more

end Connection

section Exact

variable (closed : Text) {connection : Connection} {bytes : Text} {length : Nat}

/-- What stands behind the bytes that are asked for is left alone. -/
theorem receiveExact_append (back : Connection) (carried : connection.Carries bytes)
    (enough : length ≤ bytes.length) :
    ∃ rest, receiveExact closed length (connection ++ back) =
        .ok (bytes.take length, rest ++ back) ∧ rest.Carries (bytes.drop length) := by
  induction connection generalizing bytes length with
  | nil =>
      obtain rfl : bytes = [] := carried
      obtain rfl : length = 0 := Nat.le_zero.mp enough
      refine ⟨[], ?_, rfl⟩
      cases back <;> rfl
  | cons arrival rest ih =>
      cases length with
      | zero => exact ⟨arrival :: rest, rfl, carried⟩
      | succ length =>
          cases arrival with
          | failed error => exact carried.elim
          | bytes chunk =>
              obtain ⟨present, more, rfl, carried⟩ := carried
              have visible : chunk.isEmpty = false := by
                simpa using present
              simp only [List.cons_append, receiveExact, visible, Bool.false_eq_true, if_false]
              split
              · next beyond =>
                  have left : chunk.drop (length + 1) ≠ [] := by
                    rw [← List.length_pos_iff, List.length_drop]
                    omega
                  rw [List.take_append_of_le_length (Nat.le_of_lt beyond),
                    List.drop_append_of_le_length (Nat.le_of_lt beyond)]
                  exact ⟨.bytes (chunk.drop (length + 1)) :: rest, rfl, left, more, rfl, carried⟩
              · next within =>
                  rw [List.length_append] at enough
                  have left : length + 1 - chunk.length ≤ more.length := by omega
                  obtain ⟨tail, received, carries⟩ := ih carried left
                  rw [received, List.take_append, List.drop_append,
                    List.take_of_length_le (Nat.not_lt.mp within),
                    List.drop_eq_nil_of_le (Nat.not_lt.mp within)]
                  exact ⟨tail, rfl, carries⟩

theorem receiveExact_carried (carried : connection.Carries bytes)
    (enough : length ≤ bytes.length) :
    ∃ rest, receiveExact closed length connection = .ok (bytes.take length, rest) ∧
      rest.Carries (bytes.drop length) := by
  simpa using receiveExact_append closed [] carried enough

end Exact

/-- A header together with exactly the payload its length field announces. -/
structure Announced (bytes : Text) : Prop where
  header : frameHeaderSize ≤ bytes.length
  payload : bytes.length = frameHeaderSize + ofLittleEndian ((bytes.drop 20).take 4)

section Frames

variable (closed : Text) {connection : Connection} {bytes : Text} {header : FrameHeader}

theorem Connection.eq_nil_of_carries (carried : connection.Carries []) : connection = [] := by
  cases connection with
  | nil => rfl
  | cons arrival rest =>
      cases arrival with
      | failed error => exact carried.elim
      | bytes chunk =>
          obtain ⟨present, more, same, _⟩ := carried
          exact absurd (List.append_eq_nil_iff.mp same.symm).1 present

/-- The payload length of an accepted header is the one the bytes announce. -/
theorem Announced.payloadLength (announced : Announced bytes)
    (accepted : decodeFrameHeader (bytes.take frameHeaderSize) = .ok header) :
    (bytes.drop frameHeaderSize).length = header.payloadLength.toNat := by
  obtain ⟨_, _, _, front⟩ := decodeFrameHeader_eq_ok.mp accepted
  have field : (bytes.drop 20).take 4 = littleEndian 4 header.payloadLength.toNat := by
    have cut : (bytes.drop 20).take 4 = ((bytes.take frameHeaderSize).drop 20).take 4 := by
      rw [List.drop_take, List.take_take]
      rfl
    have lead : (frameMagic ++ littleEndian 2 header.version.toNat ++
        littleEndian 2 header.type.code ++ littleEndian 2 header.flags.toNat ++
        littleEndian 2 0 ++ littleEndian 8 header.sequence.toNat).length = 20 := by
      simp only [List.length_append, length_littleEndian, length_frameMagic]
    rw [cut, front, FrameHeader.bytes, List.append_assoc, List.append_assoc,
      List.drop_left' lead]
    exact List.take_left' (length_littleEndian ..)
  rw [List.length_drop, announced.payload, field,
    ofLittleEndian_littleEndian header.payloadLength.toNat_lt, Nat.add_sub_cancel_left]

theorem receivePayload_carried {payload : Text} (carried : connection.Carries payload)
    (length : payload.length = header.payloadLength.toNat) :
    receivePayload closed header connection =
      if payload = [] ∨ crc32 payload = header.payloadCrc then
        .ok (payload, [])
      else
        .error (.malformed "the frame payload integrity check failed") := by
  by_cases present : header.payloadLength.toNat > 0
  · obtain ⟨tail, whole, last⟩ := receiveExact_carried closed carried (Nat.le_of_eq length.symm)
    rw [List.take_of_length_le (Nat.le_of_eq length)] at whole
    rw [List.drop_eq_nil_of_le (Nat.le_of_eq length)] at last
    obtain rfl := Connection.eq_nil_of_carries last
    have filled : payload ≠ [] := by
      rw [← List.length_pos_iff, length]
      exact present
    simp only [receivePayload, if_pos present, whole, filled, false_or, Checks.require,
      decide_eq_true_eq]
  · have empty : payload = [] := by
      rw [← List.length_eq_zero_iff, length]
      omega
    subst empty
    obtain rfl := Connection.eq_nil_of_carries carried
    rw [receivePayload, if_neg present, if_pos (.inl rfl)]

/-- What the header and the payload make of a whole frame, on either side. -/
theorem receive_carried (announced : Announced bytes) (carried : connection.Carries bytes) :
    receive closed connection =
      match decodeFrameHeader (bytes.take frameHeaderSize) with
      | .error outcome => .error (.malformed outcome.message)
      | .ok header =>
          if bytes.drop frameHeaderSize = [] ∨
              crc32 (bytes.drop frameHeaderSize) = header.payloadCrc then
            .ok ({ type := header.type, flags := header.flags, sequence := header.sequence,
                   payload := bytes.drop frameHeaderSize }, [])
          else
            .error (.malformed "the frame payload integrity check failed") := by
  obtain ⟨rest, received, carries⟩ := receiveExact_carried closed carried announced.header
  simp only [receive, received]
  cases accepted : decodeFrameHeader (bytes.take frameHeaderSize) with
  | error outcome => rfl
  | ok header =>
      simp only [receivePayload_carried closed carries (announced.payloadLength accepted)]
      by_cases sound : bytes.drop frameHeaderSize = [] ∨
          crc32 (bytes.drop frameHeaderSize) = header.payloadCrc
      · simp only [if_pos sound]
      · simp only [if_neg sound]

theorem decodeFrame_announced (announced : Announced bytes) :
    decodeFrame bytes =
      match decodeFrameHeader (bytes.take frameHeaderSize) with
      | .error outcome => .error outcome
      | .ok header =>
          if crc32 (bytes.drop frameHeaderSize) = header.payloadCrc then
            .ok { type := header.type, flags := header.flags, sequence := header.sequence,
                  payload := bytes.drop frameHeaderSize }
          else
            .error (.failure .transportFailure "the frame payload integrity check failed") := by
  have long : decide (bytes.length < frameHeaderSize) = false :=
    decide_eq_false (Nat.not_lt.mpr announced.header)
  simp only [decodeFrame, Checks.refuseIf, Checks.require, long, Bool.not_false, if_true]
  cases accepted : decodeFrameHeader (bytes.take frameHeaderSize) with
  | error outcome => rfl
  | ok header =>
      have length : bytes.length = frameHeaderSize + header.payloadLength.toNat := by
        rw [← announced.payloadLength accepted, List.length_drop]
        have room := announced.header
        omega
      simp only [decide_eq_true length, if_true, decide_eq_true_eq]

end Frames

end PortFabric
