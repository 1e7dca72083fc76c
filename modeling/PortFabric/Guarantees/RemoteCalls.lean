import PortFabric.Guarantees.Responses
import PortFabric.Guarantees.StreamIntegrity
import PortFabric.Protocol.ClientProperties

/-!
# Remote calls

What a caller learns through a client is what it would learn from the service
itself: every request reaches the service once, and its answer comes back.
-/

set_option autoImplicit false

namespace PortFabric

/-- The two ends of one connection, with nothing on its way in between. -/
structure Link where
  client : FabricClient
  session : Session := {}

/-- The client is connected, and the session has completed its handshake and goes on. -/
structure Link.Established (link : Link) : Prop where
  connected : link.client.connected = true
  opened : link.session.helloSeen = true
  live : link.session.ended = false

/--
One call over the link. What the client sends reaches the session, and what the
session sends reaches the client, each in pieces of any size.
-/
inductive Exchange (service : CoordinatorService) (link : Link) (request : ClientRequest) :
    List ServiceCall → ClientAnswer → Link → Prop where
  | mk {inbound outbound : Connection} {served : Served}
      (requested : inbound.Carries
        (link.client.perform { arriving := outbound } request).sent.flatten)
      (handled : link.session.serveConnection inbound [service] = [served])
      (returned : outbound.Carries served.sent.flatten) :
      Exchange service link request served.calls
        (link.client.perform { arriving := outbound } request).result
        { client := (link.client.perform { arriving := outbound } request).client
          session := served.session }

/-- Calls one after another, each of which meets the service as it is at that time. -/
inductive Conversation : Link → List (CoordinatorService × ClientRequest) → List ServiceCall →
    List ClientAnswer → Link → Prop where
  | done (link : Link) : Conversation link [] [] [] link
  | call {before middle after : Link} {service : CoordinatorService} {request : ClientRequest}
      {calls later : List ServiceCall} {answer : ClientAnswer} {answers : List ClientAnswer}
      {rest : List (CoordinatorService × ClientRequest)}
      (exchanged : Exchange service before request calls answer middle)
      (continued : Conversation middle rest later answers after) :
      Conversation before ((service, request) :: rest) (calls ++ later) (answer :: answers) after

namespace ClientRequest

/-- The entry point of the service that the request is meant for. -/
def localCall (client : FabricClient) : ClientRequest → ServiceCall
  | registerPublisher => .registerPublisher client.registrationMessage
  | mutate message => .mutation message
  | query message => .query message
  | fencePublisher publisher boot detail => .fence { publisher, boot, detail }

/-- What the service answers to the call, in the form it is read in. -/
def localAnswer (client : FabricClient) (service : CoordinatorService) :
    ClientRequest → ClientAnswer
  | registerPublisher =>
      .outcome (service.onRegisterPublisher client.registrationMessage).received.normalised
  | mutate message =>
      .mutation (FabricClient.remoteResult
        (.ok (service.onMutation message).outcome.received.normalised))
  | query message => .query (.ok (service.onQuery message).answer)
  | fencePublisher publisher boot detail =>
      .outcome (service.onFence { publisher, boot, detail }).received.normalised

end ClientRequest

/-- An outcome that fits its encoding. -/
structure Outcome.Sendable (outcome : Outcome) : Prop where
  detailed : outcome.Detailed
  short : outcome.message.length ≤ maxDescriptionLength

/-- The request can be encoded and read, and so can the answer of the service to it. -/
def ClientRequest.Transmissible (client : FabricClient) (service : CoordinatorService) :
    ClientRequest → Prop
  | registerPublisher => (service.onRegisterPublisher client.registrationMessage).Sendable
  | mutate message =>
      (∃ payload, encodeMutation message = .ok payload) ∧ message.Readable ∧
        (service.onMutation message).outcome.Sendable
  | query message =>
      message.administrative.isValid = true ∧ (service.onQuery message).Built ∧
        (service.onQuery message).Deliverable
  | fencePublisher publisher boot detail =>
      detail.length ≤ maxDescriptionLength ∧
        (service.onFence { publisher, boot, detail }).Sendable

section Ends

variable {client : FabricClient} {session : Session} {service : CoordinatorService}
  {frame : Frame} {inbound outbound : Connection}

/-- A round over exactly one frame. -/
theorem serveConnection_frame (sendable : frame.Sendable)
    (carried : inbound.Carries frame.document) :
    session.serveConnection inbound [service] = [session.step ⟨service, .ok frame⟩] := by
  rw [← List.append_nil frame.document] at carried
  obtain ⟨rest, received, left⟩ :=
    receive_document "the peer closed the connection" [] sendable carried
  rw [List.append_nil] at received
  simp only [Session.serveConnection, serveReceive, received]
  split <;> rfl

/-- The client receives the one frame that was sent. -/
theorem receiveFrame_document (expected : MessageType) (sendable : frame.Sendable)
    (proper : frame.type ≠ .errorResponse) (carried : outbound.Carries frame.document) :
    ∃ rest, receiveFrame expected outbound = .ok (frame, rest) := by
  rw [← List.append_nil frame.document] at carried
  obtain ⟨rest, received, _⟩ :=
    receive_document "the coordinator closed the connection" [] sendable carried
  refine ⟨rest ++ [], ?_⟩
  rw [List.append_nil] at received
  simp only [receiveFrame, received]
  rw [if_neg fun refused => proper refused.2]

variable {α : Type} {request response : MessageType} {encoded : Except Outcome Text}
  {decode : Text → Except Outcome α} {payload : Text} {answered : Except Outcome Text}
  {value : α}

/-- A call whose request is answered with the encoded answer. -/
theorem call_answered {served : Served} (connected : client.connected = true)
    (legal : request.isValid = true) (opened : encoded = .ok payload)
    (bounded : payload.length ≤ maxFrameBytes)
    (requested : inbound.Carries
      (client.call request response encoded decode { arriving := outbound }).sent.flatten)
    (handled : session.serveConnection inbound [service] = [served])
    (returned : outbound.Carries served.sent.flatten)
    (sends : (session.step ⟨service, .ok (client.frame request payload)⟩).sent =
      sendEncoded response (client.frame request payload).sequence answered)
    (expected : response.isValid = true) (proper : response ≠ .errorResponse)
    (fits : ∀ bytes, answered = .ok bytes → bytes.length ≤ maxFrameBytes)
    (told : ∃ bytes, answered = .ok bytes ∧ decode bytes = .ok value) :
    served = session.step ⟨service, .ok (client.frame request payload)⟩ ∧
      client.call request response encoded decode { arriving := outbound } =
        { client := { client with sequence := client.sequence + 1 }
          sent := [(client.frame request payload).document]
          result := .ok value } := by
  rw [FabricClient.call_sent connected legal bounded opened, List.flatten_singleton] at requested
  have sendable := client.frame_sendable legal bounded
  rw [serveConnection_frame sendable requested] at handled
  cases handled
  refine ⟨rfl, ?_⟩
  obtain ⟨bytes, rfl, decoded⟩ := told
  have small := fits bytes rfl
  have answer : Frame.Sendable
      { type := response, sequence := (client.frame request payload).sequence, payload := bytes } :=
    ⟨expected, small⟩
  rw [sends, sendEncoded, sendFrame_eq expected small, List.flatten_singleton] at returned
  obtain ⟨rest, received⟩ := receiveFrame_document response answer proper returned
  rw [FabricClient.call_received connected legal bounded opened rfl received, decoded]
  rfl

end Ends

section Requests

variable {link after : Link} {service : CoordinatorService} {request : ClientRequest}
  {calls : List ServiceCall} {answer : ClientAnswer}

/-- The round of an open session over a frame that reaches an entry point. -/
structure Serves (session : Session) (service : CoordinatorService) (frame : Frame)
    (call : ServiceCall) (response : MessageType) (answered : Except Outcome Text) : Prop where
  next : (session.step ⟨service, .ok frame⟩).session =
    { session with sequence := session.sequence + 1 }
  calls : (session.step ⟨service, .ok frame⟩).calls = [call]
  sent : (session.step ⟨service, .ok frame⟩).sent = sendEncoded response frame.sequence answered

section Rounds

variable {session : Session} (service : CoordinatorService) (frame : Frame)

theorem serves_registerPublisher {message : RegisterPublisherMessage}
    (opened : session.helloSeen = true) (type : frame.type = .registerPublisher)
    (decoded : decodeRegisterPublisher frame.payload = .ok message) :
    Serves session service frame (.registerPublisher message) .registerPublisherAck
      (encodeOutcome (service.onRegisterPublisher message)) := by
  constructor <;>
    simp only [Session.step, Session.handle, type, Session.serveRegisterPublisher,
      Session.afterHello, opened, decoded, Bool.not_true, Bool.false_eq_true, if_false]

theorem serves_mutation {message : PortMutationMessage}
    (opened : session.helloSeen = true) (type : frame.type = .mutation)
    (decoded : decodeMutation frame.payload = .ok message) :
    Serves session service frame (.mutation message) .mutationAck
      (encodeOutcome (service.onMutation message).outcome) := by
  constructor <;>
    simp only [Session.step, Session.handle, type, Session.serveMutation,
      Session.afterHello, opened, decoded, Bool.not_true, Bool.false_eq_true, if_false]

theorem serves_query {message : QueryMessage}
    (opened : session.helloSeen = true) (type : frame.type = .query)
    (decoded : decodeQuery frame.payload = .ok message) :
    Serves session service frame (.query message) .queryAck
      (Session.encodeAnswer (service.onQuery message)) := by
  constructor <;>
    simp only [Session.step, Session.handle, type, Session.serveQuery,
      Session.afterHello, opened, decoded, Bool.not_true, Bool.false_eq_true, if_false]

theorem serves_fencePublisher (session : Session) {message : FenceMessage}
    (type : frame.type = .fencePublisher) (decoded : decodeFence frame.payload = .ok message) :
    Serves session service frame (.fence message) .fencePublisherAck
      (encodeOutcome (service.onFence message)) := by
  constructor <;>
    simp only [Session.step, Session.handle, type, Session.serveFencePublisher, decoded]

end Rounds

theorem Outcome.Sendable.delivered {outcome : Outcome} (sendable : outcome.Sendable) :
    ∃ bytes, encodeOutcome outcome = .ok bytes ∧
      decodeOutcome bytes = .ok outcome.received.normalised := by
  obtain ⟨bytes, encoded⟩ := (encodeOutcome_ok_iff sendable.detailed).mpr sendable.short
  exact ⟨bytes, encoded, decodeOutcome_encoded sendable.detailed.few encoded⟩

/-- The link after a call that was answered. -/
structure Link.Continues (before after : Link) : Prop where
  client : after.client = { before.client with sequence := before.client.sequence + 1 }
  session : after.session = { before.session with sequence := before.session.sequence + 1 }

theorem Link.Continues.established (continues : link.Continues after)
    (established : link.Established) : after.Established := by
  constructor
  · rw [continues.client]
    exact established.connected
  · rw [continues.session]
    exact established.opened
  · rw [continues.session]
    exact established.live

/-- A transmissible request is one call of the service and has the answer of the service. -/
theorem Exchange.isLocal (exchanged : Exchange service link request calls answer after)
    (established : link.Established) (transmissible : request.Transmissible link.client service) :
    calls = [request.localCall link.client] ∧ answer = request.localAnswer link.client service ∧
      link.Continues after := by
  cases exchanged with
  | @mk inbound outbound served requested handled returned =>
      cases request with
      | registerPublisher =>
          obtain ⟨payload, encoded⟩ := encodeRegisterPublisher_ok link.client.registrationMessage
          have bounded := ((ByteWriter.payload_eq_ok fun _ =>
            writeRegisterPublisher_eq_emit _).mp encoded).2
          have serves := serves_registerPublisher service
            (link.client.frame .registerPublisher payload) established.opened rfl
            (decodeRegisterPublisher_encoded encoded)
          obtain ⟨rfl, called⟩ := call_answered established.connected rfl encoded bounded requested
            handled returned serves.sent rfl (by decide) encodeOutcome_bounded
            (Outcome.Sendable.delivered transmissible)
          simp only [FabricClient.perform, FabricClient.registerPublisher, called]
          exact ⟨serves.calls, rfl, rfl, serves.next⟩
      | mutate message =>
          obtain ⟨⟨payload, encoded⟩, readable, sendable⟩ := transmissible
          obtain ⟨written, bounded⟩ := encodeMutation_eq_ok.mp encoded
          have serves := serves_mutation service
            (link.client.frame .mutation payload) established.opened rfl
            (decodeMutation_eq_ok.mpr ⟨readable, written⟩)
          obtain ⟨rfl, called⟩ := call_answered established.connected rfl encoded bounded requested
            handled returned serves.sent rfl (by decide) encodeOutcome_bounded
            sendable.delivered
          simp only [FabricClient.perform, FabricClient.mutate, called]
          exact ⟨serves.calls, rfl, rfl, serves.next⟩
      | query message =>
          obtain ⟨legal, built, deliverable⟩ := transmissible
          obtain ⟨payload, encoded⟩ := encodeQuery_ok message
          have bounded := ((ByteWriter.payload_eq_ok fun _ =>
            writeQuery_eq_emit _).mp encoded).2
          have serves := serves_query service
            (link.client.frame .query payload) established.opened rfl
            (decodeQuery_encoded legal encoded)
          obtain ⟨rfl, called⟩ := call_answered established.connected rfl encoded bounded requested
            handled returned serves.sent rfl (by decide) encodeAnswer_bounded
            ((decode_encodeAnswer_iff built).mpr deliverable)
          simp only [FabricClient.perform, FabricClient.query, called]
          exact ⟨serves.calls, rfl, rfl, serves.next⟩
      | fencePublisher publisher boot detail =>
          obtain ⟨short, sendable⟩ := transmissible
          have fits : (FenceMessage.detail { publisher, boot, detail }).length ≤
              maxDescriptionLength := short
          obtain ⟨payload, encoded⟩ := encodeFence_ok fits
          have bounded := ((ByteWriter.payload_eq_ok fun _ =>
            writeFence_eq_emit _).mp encoded).2
          have serves := serves_fencePublisher service
            (link.client.frame .fencePublisher payload) link.session rfl
            (decodeFence_encoded encoded)
          obtain ⟨rfl, called⟩ := call_answered established.connected rfl encoded bounded requested
            handled returned serves.sent rfl (by decide) encodeOutcome_bounded
            sendable.delivered
          simp only [FabricClient.perform, FabricClient.fencePublisher, called]
          exact ⟨serves.calls, rfl, rfl, serves.next⟩

/-- What a request is to the service depends on the client's identity and epoch alone. -/
theorem Link.Continues.requests (continues : link.Continues after) (request : ClientRequest) :
    request.localCall after.client = request.localCall link.client ∧
      (∀ service, request.localAnswer after.client service =
        request.localAnswer link.client service) ∧
      ∀ service, request.Transmissible after.client service ↔
        request.Transmissible link.client service := by
  rw [continues.client]
  cases request <;> exact ⟨rfl, fun _ => rfl, fun _ => Iff.rfl⟩

end Requests

/--
Every request of a conversation reaches the service exactly once, in the order
of the calls, and every call returns what the service answered.
-/
theorem remote_calls_are_local {before after : Link}
    {requests : List (CoordinatorService × ClientRequest)} {calls : List ServiceCall}
    {answers : List ClientAnswer} (conversed : Conversation before requests calls answers after)
    (established : before.Established)
    (transmissible : ∀ entry ∈ requests, entry.2.Transmissible before.client entry.1) :
    calls = requests.map (fun entry => entry.2.localCall before.client) ∧
      answers = requests.map (fun entry => entry.2.localAnswer before.client entry.1) ∧
      after.Established := by
  induction conversed with
  | done link => exact ⟨rfl, rfl, established⟩
  | @call before middle after service request calls later answer answers rest exchanged continued
      ih =>
      obtain ⟨rfl, rfl, continues⟩ :=
        exchanged.isLocal established (transmissible _ List.mem_cons_self)
      have others : ∀ entry ∈ rest, entry.2.Transmissible middle.client entry.1 := by
        intro entry member
        exact ((continues.requests entry.2).2.2 entry.1).mpr
          (transmissible entry (List.mem_cons_of_mem _ member))
      obtain ⟨rfl, rfl, open'⟩ := ih (continues.established established) others
      refine ⟨?_, ?_, open'⟩
      · rw [List.map_cons, List.singleton_append]
        refine congrArg _ (List.map_congr_left fun entry _ => ?_)
        exact (continues.requests entry.2).1
      · rw [List.map_cons]
        refine congrArg _ (List.map_congr_left fun entry _ => ?_)
        exact (continues.requests entry.2).2.1 entry.1

section Existence

/-- The bytes in one piece. -/
def Connection.ofBytes (bytes : Text) : Connection :=
  if bytes = [] then [] else [.bytes bytes]

theorem Connection.ofBytes_carries (bytes : Text) : (Connection.ofBytes bytes).Carries bytes := by
  unfold Connection.ofBytes
  split
  · next empty => exact empty
  · next filled => exact ⟨filled, [], (List.append_nil bytes).symm, rfl⟩

variable {client : FabricClient} {service : CoordinatorService} {request : ClientRequest}

/-- A transmissible request is sent as one frame. -/
theorem ClientRequest.Transmissible.sent (transmissible : request.Transmissible client service)
    (connected : client.connected = true) :
    ∃ frame : Frame, frame.Sendable ∧
      ∀ transport, (client.perform transport request).sent = [frame.document] := by
  cases request with
  | registerPublisher =>
      obtain ⟨payload, encoded⟩ := encodeRegisterPublisher_ok client.registrationMessage
      have bounded := ((ByteWriter.payload_eq_ok fun _ =>
        writeRegisterPublisher_eq_emit _).mp encoded).2
      exact ⟨_, client.frame_sendable rfl bounded, fun _ =>
        FabricClient.call_sent connected rfl bounded encoded⟩
  | mutate message =>
      obtain ⟨⟨payload, encoded⟩, _, _⟩ := transmissible
      have bounded := (encodeMutation_eq_ok.mp encoded).2
      exact ⟨_, client.frame_sendable rfl bounded, fun _ =>
        FabricClient.call_sent connected rfl bounded encoded⟩
  | query message =>
      obtain ⟨payload, encoded⟩ := encodeQuery_ok message
      have bounded := ((ByteWriter.payload_eq_ok fun _ => writeQuery_eq_emit _).mp encoded).2
      exact ⟨_, client.frame_sendable rfl bounded, fun _ =>
        FabricClient.call_sent connected rfl bounded encoded⟩
  | fencePublisher publisher boot detail =>
      have fits : (FenceMessage.detail { publisher, boot, detail }).length ≤
          maxDescriptionLength := transmissible.1
      obtain ⟨payload, encoded⟩ := encodeFence_ok fits
      have bounded := ((ByteWriter.payload_eq_ok fun _ => writeFence_eq_emit _).mp encoded).2
      exact ⟨_, client.frame_sendable rfl bounded, fun _ =>
        FabricClient.call_sent connected rfl bounded encoded⟩

/-- A transmissible request can be called. -/
theorem Exchange.exists_of_transmissible {link : Link} (established : link.Established)
    (transmissible : request.Transmissible link.client service) :
    ∃ calls answer after, Exchange service link request calls answer after := by
  obtain ⟨frame, sendable, sent⟩ := transmissible.sent established.connected
  refine ⟨_, _, _, .mk ?_ (serveConnection_frame sendable (Connection.ofBytes_carries _))
    (Connection.ofBytes_carries _)⟩
  rw [sent, List.flatten_singleton]
  exact Connection.ofBytes_carries _

/-- Transmissible requests can be called one after another. -/
theorem Conversation.exists_of_transmissible {before : Link}
    {requests : List (CoordinatorService × ClientRequest)} (established : before.Established)
    (transmissible : ∀ entry ∈ requests, entry.2.Transmissible before.client entry.1) :
    ∃ calls answers after, Conversation before requests calls answers after := by
  induction requests generalizing before with
  | nil => exact ⟨[], [], before, .done before⟩
  | cons entry rest ih =>
      obtain ⟨service, request⟩ := entry
      have first := transmissible _ List.mem_cons_self
      obtain ⟨_, _, _, exchanged⟩ := Exchange.exists_of_transmissible established first
      obtain ⟨_, _, continues⟩ := exchanged.isLocal established first
      obtain ⟨calls, answers, after, continued⟩ := ih (continues.established established)
        fun other member => ((continues.requests other.2).2.2 other.1).mpr
          (transmissible other (List.mem_cons_of_mem _ member))
      exact ⟨_, _, after, .call exchanged continued⟩

end Existence

namespace OrdinaryConversation

def link : Link where
  client := { config := { publisher := "agent-a", boot := "boot-a" }, connected := true }
  session := { helloSeen := true }

def service : CoordinatorService := LongOutcome.service { outcome := .success "mutation committed" }

/-- A worker registers, mutates a port, asks about the engine and fences itself. -/
def requests : List (CoordinatorService × ClientRequest) :=
  [ (service, .registerPublisher), (service, .mutate (LostMessages.message {})),
    (service, .query LongOutcome.infoQuery),
    (service, .fencePublisher "agent-a" "boot-a" "done") ]

theorem transmissible : ∀ entry ∈ requests, entry.2.Transmissible link.client entry.1 := by
  have plain : Outcome.Sendable .success := ⟨.bare rfl, Nat.zero_le _⟩
  have committed : Outcome.Sendable (.success "mutation committed") := ⟨.bare rfl, by decide⟩
  have readable := (LostMessages.lawful LostMessages.plain_legal).readable_iff.mpr rfl
  intro entry member
  simp only [requests, List.mem_cons, List.not_mem_nil, or_false] at member
  rcases member with rfl | rfl | rfl | rfl
  · exact plain
  · exact ⟨LostMessages.plain_encoded, readable, committed⟩
  · exact ⟨rfl, LongOutcome.info_built _, LongOutcome.info_deliverable _⟩
  · exact ⟨by decide, plain⟩

end OrdinaryConversation

/-- The four calls of a worker reach the service in their order. -/
theorem worker_calls_are_local :
    ∃ answers after, Conversation OrdinaryConversation.link OrdinaryConversation.requests
      (OrdinaryConversation.requests.map fun entry =>
        entry.2.localCall OrdinaryConversation.link.client) answers after := by
  have established : OrdinaryConversation.link.Established := ⟨rfl, rfl, rfl⟩
  obtain ⟨calls, answers, after, conversed⟩ :=
    Conversation.exists_of_transmissible established OrdinaryConversation.transmissible
  obtain ⟨rfl, _⟩ :=
    remote_calls_are_local conversed established OrdinaryConversation.transmissible
  exact ⟨answers, after, conversed⟩

end PortFabric
