import PortFabric.Guarantees.RemoteCalls
import PortFabric.Protocol.MessageIdentity

/-!
# Broken calls

A mutation over a connection that may break at any byte in either direction. A
result that is reported as accepted was performed; a transport failure leaves
open whether the mutation was.
-/

set_option autoImplicit false

namespace PortFabric

/-- Some of the bytes arrive, in any pieces, and then nothing more does. -/
def Connection.Breaks (connection : Connection) (bytes : Text) : Prop :=
  ∃ front back part, connection = front ++ back ∧ front.Carries part ∧ part <+: bytes ∧ back.Over

section Receiving

variable {connection : Connection} (closed : Text)

/-- Of one frame on a breaking connection, a receiver sees all or nothing. -/
theorem receive_breaking {frame : Frame} (sendable : frame.Sendable)
    (breaks : connection.Breaks frame.document) :
    (∃ rest, receive closed connection = .ok (frame, rest)) ∨
      ∃ error, receive closed connection = .error (.lost error) := by
  obtain ⟨front, back, part, rfl, carried, within, closing⟩ := breaks
  by_cases short : part.length < frame.document.length
  · exact .inr (receive_cut closed sendable within short carried closing)
  · have whole : part = frame.document :=
      within.eq_of_length (Nat.le_antisymm within.length_le (Nat.not_lt.mp short))
    rw [whole, ← List.append_nil frame.document] at carried
    obtain ⟨rest, received, _⟩ := receive_document closed back sendable carried
    exact .inl ⟨_, received⟩

theorem receive_breaking_nil (breaks : connection.Breaks []) :
    ∃ error, receive closed connection = .error (.lost error) := by
  obtain ⟨front, back, part, rfl, carried, within, closing⟩ := breaks
  obtain rfl := List.prefix_nil.mp within
  obtain rfl := Connection.eq_nil_of_carries carried
  exact receive_over closed closing

end Receiving

section Mutations

variable {client : FabricClient} {session : Session} {service : CoordinatorService}
  {message : PortMutationMessage} {inbound outbound : Connection}

/-- A round over a mutation request calls the service, or refuses the request. -/
theorem step_mutation_cases (session : Session) (service : CoordinatorService) {frame : Frame}
    (type : frame.type = .mutation) :
    (∃ received, decodeMutation frame.payload = .ok received ∧
        (session.step ⟨service, .ok frame⟩).calls = [.mutation received] ∧
        (session.step ⟨service, .ok frame⟩).sent = sendEncoded .mutationAck frame.sequence
          (encodeOutcome (service.onMutation received).outcome)) ∨
      (session.step ⟨service, .ok frame⟩).calls = [] ∧
        ∃ outcome, (session.step ⟨service, .ok frame⟩).sent =
          sendEncoded .errorResponse frame.sequence (encodeOutcome outcome) := by
  cases opened : session.helloSeen with
  | false =>
      refine .inr ⟨?_, .failure .malformedRequest
        "the session has not completed its opening handshake", ?_⟩ <;>
      simp only [Session.step, Session.handle, type, Session.serveMutation, Session.afterHello,
        opened, Bool.not_false, if_true, Session.refuse]
  | true =>
      cases decoded : decodeMutation frame.payload with
      | error outcome =>
          refine .inr ⟨?_, .failure .malformedRequest outcome.message, ?_⟩ <;>
          simp only [Session.step, Session.handle, type, Session.serveMutation,
            Session.afterHello, opened, decoded, Bool.not_true, Bool.false_eq_true, if_false,
            Session.refuse]
      | ok received =>
          have serves := serves_mutation service frame opened type decoded
          exact .inl ⟨received, rfl, serves.calls, serves.sent⟩

/-- What was received is the one frame that was sent, and no error response. -/
theorem receiveFrame_sent {type : MessageType} {sequence : UInt64}
    {answered : Except Outcome Text} {frame : Frame} {rest : Connection}
    (breaks : outbound.Breaks (sendEncoded type sequence answered).flatten)
    (legal : type.isValid = true)
    (fits : ∀ bytes, answered = .ok bytes → bytes.length ≤ maxFrameBytes)
    (received : receiveFrame .mutationAck outbound = .ok (frame, rest)) :
    type ≠ .errorResponse ∧ answered = .ok frame.payload := by
  unfold receiveFrame at received
  split at received
  · cases received
  · next found left arrived =>
      split at received
      · cases received
      · next proper =>
          cases received
          cases answered with
          | error outcome =>
              obtain ⟨error, lost⟩ := receive_breaking_nil _ breaks
              rw [lost] at arrived
              cases arrived
          | ok payload =>
              have small := fits payload rfl
              rw [sendEncoded, sendFrame_eq legal small, List.flatten_singleton] at breaks
              obtain ⟨_, whole⟩ | ⟨error, lost⟩ := receive_breaking _ ⟨legal, small⟩ breaks
              · rw [whole] at arrived
                cases arrived
                refine ⟨fun refused => proper ⟨by decide, refused⟩, rfl⟩
              · rw [lost] at arrived
                cases arrived

end Mutations

section Outcomes

/-- The wire keeps whether an outcome is accepted. -/
theorem accepted_normalised (outcome : Outcome) :
    outcome.received.normalised.accepted = outcome.accepted := by
  have every : ∀ code : OutcomeCode, ((OutcomeCode.declared[(UInt8.ofNat code.byte).toNat]?).elim
      false OutcomeCode.isAccepted) = code.isAccepted := by
    intro code
    cases code <;> rfl
  rw [ReceivedOutcome.accepted, outcome.normalised_code, every]
  rfl

end Outcomes

/--
However the connection breaks in either direction, a mutation that a client
reports as accepted was called at the service exactly once, with the very
message, and the client reports what the service answered.
-/
theorem accepted_was_performed {client : FabricClient} {session : Session}
    {service : CoordinatorService} {message : PortMutationMessage}
    {inbound outbound : Connection} {sent : Except Text Unit}
    (requested : inbound.Breaks
      (client.mutate message { sent, arriving := outbound }).sent.flatten)
    (returned : outbound.Breaks
      ((session.serveConnection inbound [service]).flatMap Served.sent).flatten)
    (accepted : (client.mutate message { sent, arriving := outbound }).result.accepted = true) :
    (session.serveConnection inbound [service]).flatMap Served.calls = [.mutation message] ∧
      (client.mutate message { sent, arriving := outbound }).result.outcome =
        (service.onMutation message).outcome.received.normalised ∧
      (service.onMutation message).outcome.accepted = true := by
  have told : ∃ outcome, (client.call .mutation .mutationAck (encodeMutation message) decodeOutcome
      { sent, arriving := outbound }).result = .ok outcome := by
    simp only [FabricClient.mutate] at accepted
    cases result : (client.call .mutation .mutationAck (encodeMutation message) decodeOutcome
        { sent, arriving := outbound }).result with
    | error outcome =>
        rw [result] at accepted
        cases accepted
    | ok outcome => exact ⟨outcome, rfl⟩
  obtain ⟨outcome, told⟩ := told
  obtain ⟨payload, frame, rest, connected, encoded, _, received, decoded⟩ :=
    FabricClient.call_ok told
  have bounded := (encodeMutation_eq_ok.mp encoded).2
  have legal : MessageType.mutation.isValid = true := rfl
  have handed : (client.mutate message { sent, arriving := outbound }).sent =
      [(client.frame .mutation payload).document] :=
    FabricClient.call_sent connected legal bounded encoded
  rw [handed, List.flatten_singleton] at requested
  have sendable := client.frame_sendable legal bounded
  have result : (client.mutate message { sent, arriving := outbound }).result =
      { outcome, accepted := outcome.accepted, summary := outcome.message } := by
    rw [FabricClient.mutate, told]
    rfl
  obtain ⟨left, arrived⟩ | ⟨error, lost⟩ :=
    receive_breaking "the peer closed the connection" sendable requested
  · have rounds : session.serveConnection inbound [service] =
        [session.step ⟨service, .ok (client.frame .mutation payload)⟩] := by
      simp only [Session.serveConnection, serveReceive, arrived]
      split <;> rfl
    rw [rounds, List.flatMap_singleton] at returned ⊢
    obtain ⟨request, read, calls, answers⟩ | ⟨_, refusal, answers⟩ :=
      step_mutation_cases session service
        (show (client.frame .mutation payload).type = .mutation from rfl)
    · rw [answers] at returned
      obtain ⟨_, answered⟩ := receiveFrame_sent returned rfl encodeOutcome_bounded received
      obtain rfl := decodeMutation_of_encoded encoded read
      obtain rfl := decodeOutcome_of_encoded answered decoded
      rw [result] at accepted ⊢
      exact ⟨calls, rfl, (accepted_normalised _).symm.trans accepted⟩
    · rw [answers] at returned
      exact absurd rfl (receiveFrame_sent returned rfl encodeOutcome_bounded received).1
  · have rounds : session.serveConnection inbound [service] =
        [{ session := { session with ended := true } }] := by
      simp only [Session.serveConnection, serveReceive, lost]
      rfl
    rw [rounds] at returned
    obtain ⟨error, missing⟩ :=
      receive_breaking_nil "the coordinator closed the connection" returned
    simp only [receiveFrame, missing] at received
    cases received

theorem Connection.Carries.breaks {connection : Connection} {bytes : Text}
    (carried : connection.Carries bytes) : connection.Breaks bytes :=
  ⟨connection, [], bytes, (List.append_nil _).symm, carried, List.prefix_rfl, trivial⟩

/-- The mutation a worker sees committed was performed by the service. -/
theorem worker_mutation_performed :
    ∃ inbound : Connection,
      (OrdinaryConversation.link.session.serveConnection inbound
        [OrdinaryConversation.service]).flatMap Served.calls =
          [.mutation (LostMessages.message {})] ∧
      (OrdinaryConversation.service.onMutation (LostMessages.message {})).outcome.accepted =
        true := by
  have established : OrdinaryConversation.link.Established := ⟨rfl, rfl, rfl⟩
  have member : (OrdinaryConversation.service, .mutate (LostMessages.message {})) ∈
      OrdinaryConversation.requests := List.mem_cons_of_mem _ List.mem_cons_self
  have transmissible := OrdinaryConversation.transmissible _ member
  obtain ⟨calls, answer, after, exchanged⟩ :=
    Exchange.exists_of_transmissible established transmissible
  obtain ⟨_, told, _⟩ := exchanged.isLocal established transmissible
  cases exchanged with
  | @mk inbound outbound served requested handled returned =>
      have accepted : (OrdinaryConversation.link.client.mutate (LostMessages.message {})
          { arriving := outbound }).result.accepted = true := by
        simp only [FabricClient.perform, ClientRequest.localAnswer, ClientAnswer.mutation.injEq]
          at told
        rw [told, FabricClient.remoteResult]
        exact (accepted_normalised (.success "mutation committed")).trans rfl
      have arrives : outbound.Breaks ((OrdinaryConversation.link.session.serveConnection inbound
          [OrdinaryConversation.service]).flatMap Served.sent).flatten := by
        rw [handled, List.flatMap_singleton]
        exact returned.breaks
      simp only [FabricClient.perform] at requested
      obtain ⟨called, _, performed⟩ :=
        accepted_was_performed requested.breaks arrives accepted
      exact ⟨inbound, called, performed⟩

end PortFabric
