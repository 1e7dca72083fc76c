import PortFabric.Guarantees.RemoteCalls

/-!
# Handshake

The opening call: both ends come to the same view of whether the session is
open, and the client learns the epoch of the coordinator.
-/

set_option autoImplicit false

namespace PortFabric

/-- The opening call of a client to a new session. -/
inductive Opening (service : CoordinatorService) (client : FabricClient) :
    List ServiceCall → ReceivedOutcome → Link → Prop where
  | mk {inbound outbound : Connection} {served : Served}
      (requested : inbound.Carries (client.connect { arriving := outbound }).sent.flatten)
      (handled : ({} : Session).serveConnection inbound [service] = [served])
      (returned : outbound.Carries served.sent.flatten) :
      Opening service client served.calls (client.connect { arriving := outbound }).result
        { client := (client.connect { arriving := outbound }).client, session := served.session }

/-- What the service says to the opening message. -/
def FabricClient.acknowledgement (client : FabricClient) (service : CoordinatorService) :
    HelloAckMessage where
  accepted := (service.onHello client.helloMessage).1.accepted
  epoch := (service.onHello client.helloMessage).2
  detail := (service.onHello client.helloMessage).1.message

/-- A client that is not connected yet, and that its configuration identifies. -/
structure FabricClient.Ready (client : FabricClient) : Prop where
  disconnected : client.connected = false
  identified : (client.config.publisher.valid && client.config.boot.valid) = true
  short : client.config.role.length ≤ maxNameLength

theorem encodeHelloAck_ok {message : HelloAckMessage}
    (short : message.detail.length ≤ maxDescriptionLength) :
    ∃ bytes, encodeHelloAck message = .ok bytes ∧ bytes.length ≤ maxFrameBytes := by
  have whole : (ByteLayout.helloAck message).Whole := by
    simp [ByteLayout.helloAck, short]
  have small : Formats.Layout.size (ByteLayout.helloAck message) ≤ maxFrameBytes := by
    simp only [ByteLayout.helloAck, List.flatten_cons, List.flatten_nil, Formats.Layout.size_append,
      Formats.Layout.size_nil, ByteLayout.boolean, ByteLayout.size_unsigned,
      ByteLayout.size_generation, ByteLayout.size_text short]
    simp only [maxDescriptionLength, maxFrameBytes] at *
    omega
  obtain ⟨bytes, encoded⟩ := payload_of_whole (fun _ => writeHelloAck_eq_emit message) whole small
  exact ⟨bytes, encoded,
    ((ByteWriter.payload_eq_ok fun _ => writeHelloAck_eq_emit message).mp encoded).2⟩

section Connecting

variable {client : FabricClient} {service : CoordinatorService} {transport : Transport}
  {payload : Text}

/-- The client with a socket, which sends its opening message. -/
def FabricClient.online (client : FabricClient) : FabricClient :=
  { client with connected := true }

section Sending

variable (ready : client.Ready) (available : transport.available = true)
  (opened : transport.opened = .ok ()) (encoded : encodeHello client.helloMessage = .ok payload)

include ready available opened encoded

/-- Past the checks, the opening call is one exchange. -/
theorem FabricClient.connect_eq :
    client.connect transport =
      let exchanged := client.online.exchange .hello .helloAck payload transport
      match exchanged.result with
      | .error error =>
          { client := { exchanged.client.closed with lastError := error }
            sent := exchanged.sent
            result := .transportFailure error }
      | .ok frame =>
          { client := (exchanged.client.established frame).1
            sent := exchanged.sent
            result := (exchanged.client.established frame).2 } := by
  have identified : (!client.config.publisher.valid || !client.config.boot.valid) = false := by
    have valid := ready.identified
    simp only [Bool.and_eq_true] at valid
    simp [valid]
  simp only [FabricClient.connect, ready.disconnected, Bool.false_eq_true, if_false, available,
    Bool.not_true, identified, opened, encoded]
  rfl

variable (bounded : payload.length ≤ maxFrameBytes)

include bounded

theorem FabricClient.connect_sent :
    (client.connect transport).sent = [(client.frame .hello payload).document] := by
  have legal : MessageType.hello.isValid = true := rfl
  have sent : (client.online.exchange .hello .helloAck payload transport).sent =
      [(client.frame .hello payload).document] :=
    client.online.exchange_sent .helloAck legal bounded transport
  rw [connect_eq ready available opened encoded, ← sent]
  dsimp only
  cases (client.online.exchange .hello .helloAck payload transport).result <;> rfl

/-- The frame that arrives decides whether the session is established. -/
theorem FabricClient.connect_received {frame : Frame} {rest : Connection}
    (sent : transport.sent = .ok ())
    (received : receiveFrame .helloAck transport.arriving = .ok (frame, rest)) :
    client.connect transport =
      { client :=
          ({ client.online with sequence := client.sequence + 1 : FabricClient }.established
            frame).1
        sent := [(client.frame .hello payload).document]
        result :=
          ({ client.online with sequence := client.sequence + 1 : FabricClient }.established
            frame).2 } := by
  have legal : MessageType.hello.isValid = true := rfl
  rw [connect_eq ready available opened encoded,
    client.online.exchange_received .helloAck legal bounded sent received]
  rfl

end Sending

/-- The first round of a session over a readable Hello. -/
theorem step_hello {message : HelloMessage} {frame : Frame} (type : frame.type = .hello)
    (decoded : decodeHello frame.payload = .ok message) :
    ({} : Session).step ⟨service, .ok frame⟩ =
      { session := { helloSeen := (service.onHello message).1.accepted, sequence := 1 }
        calls := [.hello message (service.onHello message).1]
        sent := sendEncoded .helloAck frame.sequence
          (encodeHelloAck
            { accepted := (service.onHello message).1.accepted
              epoch := (service.onHello message).2
              detail := (service.onHello message).1.message }) } := by
  simp only [Session.step, Session.handle, type, Session.serveHello, decoded]
  rfl

end Connecting

/-- How the opening call ends at a client, given what the service said. -/
def HelloAckMessage.outcome (ack : HelloAckMessage) : ReceivedOutcome :=
  if ack.accepted then (Outcome.success "session established").received
  else (Outcome.failure .unauthorizedOwner ack.detail).received

/-- The frame that carries an acknowledgement to the client. -/
def FabricClient.ackFrame (client : FabricClient) (payload : Text) : Frame where
  type := .helloAck
  sequence := client.sequence + 1
  payload

/-- A readable acknowledgement decides on which side of the handshake the client stands. -/
theorem established_ack {client : FabricClient} {frame : Frame} {ack : HelloAckMessage}
    (type : frame.type = .helloAck) (decoded : decodeHelloAck frame.payload = .ok ack) :
    client.established frame =
      if ack.accepted then ({ client with epoch := ack.epoch }, ack.outcome)
      else (client.closed, ack.outcome) := by
  simp only [FabricClient.established, type, ne_eq, not_true_eq_false, if_false, decoded,
    HelloAckMessage.outcome]
  cases ack.accepted <;> rfl

/--
The opening call shows the service the client's identity once and reports what
the service said. Either both ends consider the session open, and the client
knows the epoch of the coordinator, or neither does.
-/
theorem handshake_agrees {service : CoordinatorService} {client : FabricClient}
    {calls : List ServiceCall} {outcome : ReceivedOutcome} {link : Link}
    (opening : Opening service client calls outcome link) (ready : client.Ready)
    (brief : (client.acknowledgement service).detail.length ≤ maxDescriptionLength) :
    calls = [.hello client.helloMessage (service.onHello client.helloMessage).1] ∧
      outcome = (client.acknowledgement service).outcome ∧
      (if (client.acknowledgement service).accepted then
        link.Established ∧ link.client.epoch = (client.acknowledgement service).epoch
      else link.client.connected = false ∧ link.session.helloSeen = false) := by
  cases opening with
  | @mk inbound outbound served requested handled returned =>
      obtain ⟨payload, encoded⟩ := encodeHello_ok (show client.helloMessage.role.length ≤ _ from
        ready.short)
      have bounded := ((ByteWriter.payload_eq_ok fun _ => writeHello_eq_emit _).mp encoded).2
      rw [FabricClient.connect_sent ready rfl rfl encoded bounded, List.flatten_singleton]
        at requested
      have sendable : (client.frame .hello payload).Sendable := ⟨rfl, bounded⟩
      rw [serveConnection_frame sendable requested] at handled
      have read : decodeHello (client.frame .hello payload).payload = .ok client.helloMessage :=
        decodeHello_encoded rfl encoded
      rw [step_hello rfl read] at handled
      cases handled
      obtain ⟨bytes, told, small⟩ := encodeHelloAck_ok brief
      have sent : sendEncoded .helloAck (client.frame .hello payload).sequence
          (encodeHelloAck (client.acknowledgement service)) =
            [(client.ackFrame bytes).document] := by
        rw [told, sendEncoded, sendFrame_eq rfl small]
        rfl
      have arrived : outbound.Carries [(client.ackFrame bytes).document].flatten := by
        rw [← sent]
        exact returned
      rw [List.flatten_singleton] at arrived
      have proper : (client.ackFrame bytes).type ≠ .errorResponse := by
        intro same
        cases same
      obtain ⟨rest, received⟩ := receiveFrame_document .helloAck ⟨rfl, small⟩ proper arrived
      have decoded : decodeHelloAck (client.ackFrame bytes).payload =
          .ok (client.acknowledgement service) := decodeHelloAck_encoded told
      rw [FabricClient.connect_received ready rfl rfl encoded bounded rfl received,
        established_ack rfl decoded]
      refine ⟨rfl, ?_, ?_⟩
      · cases (client.acknowledgement service).accepted <;> rfl
      · cases said : (client.acknowledgement service).accepted with
        | true => exact ⟨⟨rfl, said, rfl⟩, rfl⟩
        | false => exact ⟨rfl, said⟩

namespace OrdinaryConversation

/-- The worker before its opening call. -/
def newcomer : FabricClient where
  config := link.client.config

theorem newcomer_ready : newcomer.Ready := ⟨rfl, by decide +kernel, by decide⟩

theorem opening_exists : ∃ calls outcome link, Opening service newcomer calls outcome link := by
  obtain ⟨payload, encoded⟩ := encodeHello_ok (show newcomer.helloMessage.role.length ≤ _ from
    newcomer_ready.short)
  have bounded := ((ByteWriter.payload_eq_ok fun _ => writeHello_eq_emit _).mp encoded).2
  have sendable : (newcomer.frame .hello payload).Sendable := ⟨rfl, bounded⟩
  refine ⟨_, _, _, .mk ?_ (serveConnection_frame sendable (Connection.ofBytes_carries _))
    (Connection.ofBytes_carries _)⟩
  rw [FabricClient.connect_sent newcomer_ready rfl rfl encoded bounded, List.flatten_singleton]
  exact Connection.ofBytes_carries _

end OrdinaryConversation

/-- A worker that names itself opens a session and learns the first epoch. -/
theorem worker_opens_session :
    ∃ calls outcome link, Opening OrdinaryConversation.service OrdinaryConversation.newcomer calls
      outcome link ∧ link.Established ∧ link.client.epoch = .first := by
  obtain ⟨calls, outcome, link, opening⟩ := OrdinaryConversation.opening_exists
  have agrees := handshake_agrees opening OrdinaryConversation.newcomer_ready (Nat.zero_le _)
  exact ⟨calls, outcome, link, opening, agrees.2.2⟩

end PortFabric
