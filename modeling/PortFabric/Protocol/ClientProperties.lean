import PortFabric.Protocol.Client
import PortFabric.Protocol.RequestProperties
import PortFabric.Protocol.StreamProperties

/-!
# Properties of client calls

A call hands at most one frame to the transport, and its result is decided by
the one frame that comes back.
-/

set_option autoImplicit false

namespace PortFabric

/-- The frame a client sends for a payload. -/
def FabricClient.frame (client : FabricClient) (request : MessageType) (payload : Text) :
    Frame where
  type := request
  sequence := client.sequence + 1
  payload

section Calls

variable {α : Type} {client : FabricClient} {request response : MessageType}
  {encoded : Except Outcome Text} {decode : Text → Except Outcome α} {transport : Transport}
  {payload : Text}

/-- A legal frame within the bound is handed to the transport as it is. -/
theorem sendFrame_eq {type : MessageType} {sequence : UInt64} (legal : type.isValid = true)
    (bounded : payload.length ≤ maxFrameBytes) :
    sendFrame type sequence payload = [({ type, sequence, payload } : Frame).document] := by
  have sendable : Frame.Sendable { type, sequence, payload } := ⟨legal, bounded⟩
  simp only [sendFrame, encodeFrame_eq_ok.mpr ⟨sendable, rfl⟩]

theorem FabricClient.frame_sendable (client : FabricClient) (legal : request.isValid = true)
    (bounded : payload.length ≤ maxFrameBytes) : (client.frame request payload).Sendable :=
  ⟨legal, bounded⟩

section Exchanges

variable (client) (response) (legal : request.isValid = true)
  (bounded : payload.length ≤ maxFrameBytes)

include legal bounded

/-- What is handed to the transport does not depend on what arrives. -/
theorem FabricClient.exchange_sent (transport : Transport) :
    (client.exchange request response payload transport).sent =
      [(client.frame request payload).document] := by
  have written := encodeFrame_eq_ok.mpr ⟨client.frame_sendable legal bounded, rfl⟩
  simp only [FabricClient.frame] at written
  simp only [FabricClient.exchange, written]
  cases transport.sent with
  | error error => rfl
  | ok _ => cases receiveFrame response transport.arriving <;> rfl

/-- The exchange ends with the frame that arrives. -/
theorem FabricClient.exchange_received {frame : Frame} {rest : Connection}
    (sent : transport.sent = .ok ())
    (received : receiveFrame response transport.arriving = .ok (frame, rest)) :
    client.exchange request response payload transport =
      { client := { client with sequence := client.sequence + 1 }
        sent := [(client.frame request payload).document]
        result := .ok frame } := by
  have written := encodeFrame_eq_ok.mpr ⟨client.frame_sendable legal bounded, rfl⟩
  simp only [FabricClient.frame] at written
  simp only [FabricClient.exchange, written, sent, received]
  rfl

end Exchanges

/-- A connected client sends the frame of an encoded request. -/
theorem FabricClient.call_sent (connected : client.connected = true)
    (legal : request.isValid = true) (bounded : payload.length ≤ maxFrameBytes)
    (opened : encoded = .ok payload) :
    (client.call request response encoded decode transport).sent =
      [(client.frame request payload).document] := by
  rw [← client.exchange_sent response legal bounded transport]
  simp only [FabricClient.call, connected, Bool.not_true, Bool.false_eq_true, if_false, opened]
  cases (client.exchange request response payload transport).result <;> rfl

/-- A connected client decodes the frame that arrives. -/
theorem FabricClient.call_received {frame : Frame} {rest : Connection}
    (connected : client.connected = true) (legal : request.isValid = true)
    (bounded : payload.length ≤ maxFrameBytes) (opened : encoded = .ok payload)
    (sent : transport.sent = .ok ())
    (received : receiveFrame response transport.arriving = .ok (frame, rest)) :
    client.call request response encoded decode transport =
      { client := { client with sequence := client.sequence + 1 }
        sent := [(client.frame request payload).document]
        result := (decode frame.payload).mapError Outcome.received } := by
  have exchanged := client.exchange_received response legal bounded sent received
  simp only [FabricClient.call, connected, Bool.not_true, Bool.false_eq_true, if_false, opened,
    exchanged]

/-- The exchange ends with a frame only when one arrived. -/
theorem FabricClient.exchange_ok {frame : Frame}
    (answered : (client.exchange request response payload transport).result = .ok frame) :
    transport.sent = .ok () ∧
      ∃ rest, receiveFrame response transport.arriving = .ok (frame, rest) := by
  unfold FabricClient.exchange at answered
  dsimp only at answered
  split at answered
  · cases answered
  · split at answered
    · cases answered
    · next sent =>
        split at answered
        · cases answered
        · next found rest received =>
            cases answered
            exact ⟨sent, rest, received⟩

/-- A value comes only out of a frame that arrived and was decoded. -/
theorem FabricClient.call_ok {value : α}
    (told : (client.call request response encoded decode transport).result = .ok value) :
    ∃ payload frame rest, client.connected = true ∧ encoded = .ok payload ∧
      transport.sent = .ok () ∧
      receiveFrame response transport.arriving = .ok (frame, rest) ∧
      decode frame.payload = .ok value := by
  unfold FabricClient.call at told
  split at told
  · cases told
  · next online =>
      split at told
      · cases told
      · next payload =>
          dsimp only at told
          split at told
          · cases told
          · next frame answered =>
              obtain ⟨sent, rest, received⟩ := exchange_ok answered
              refine ⟨payload, frame, rest, by simpa using online, rfl, sent, received, ?_⟩
              dsimp only at told
              cases decoded : decode frame.payload with
              | error outcome =>
                  rw [decoded] at told
                  cases told
              | ok other =>
                  rw [decoded] at told
                  cases told
                  rfl

end Calls

end PortFabric
