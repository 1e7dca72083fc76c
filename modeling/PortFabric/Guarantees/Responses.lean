import PortFabric.Guarantees.MessageRoundTrip
import PortFabric.Protocol.Dispatch
import PortFabric.Protocol.FrameProperties
import PortFabric.Protocol.MessageProperties
import PortFabric.Protocol.Session

/-!
# Responses

Which requests of an open session are answered: with one frame, under the
sequence number of the request, from which the client reads the answer.
-/

set_option autoImplicit false

namespace PortFabric

open Formats

/-- A response as its type lets it be built. -/
structure QueryResponse.Built (response : QueryResponse Outcome) : Prop where
  outcome : response.outcome.Detailed
  digest : response.digest.length = 32

/-- One frame of the type, under the sequence number, from which the client reads the answer. -/
def Delivers {α : Type} (type : MessageType) (sequence : UInt64)
    (decode : Text → Except Outcome α) (answer : α) (sent : List Text) : Prop :=
  ∃ bytes payload, sent = [bytes] ∧ decodeFrame bytes = .ok { type, sequence, payload } ∧
    decode payload = .ok answer

section Sending

variable {α : Type} {type : MessageType} {sequence : UInt64} {decode : Text → Except Outcome α}
  {answer : α} {encoded : Except Outcome Text}

/-- An encoded message is delivered when the client can read it. -/
theorem delivers_sendEncoded (legal : type.isValid = true)
    (bounded : ∀ payload, encoded = .ok payload → payload.length ≤ maxFrameBytes) :
    Delivers type sequence decode answer (sendEncoded type sequence encoded) ↔
      ∃ payload, encoded = .ok payload ∧ decode payload = .ok answer := by
  cases encoded with
  | error outcome =>
      constructor
      · intro given
        rcases given with ⟨_, _, sent, _⟩
        cases sent
      · intro given
        rcases given with ⟨_, same, _⟩
        cases same
  | ok payload =>
      have sendable : Frame.Sendable { type, sequence, payload } := ⟨legal, bounded payload rfl⟩
      have written := encodeFrame_eq_ok.mpr ⟨sendable, rfl⟩
      have read := decodeFrame_eq_ok.mpr ⟨sendable, rfl⟩
      simp only [sendEncoded, sendFrame, written]
      constructor
      · intro given
        rcases given with ⟨bytes, other, sent, decoded, told⟩
        cases sent
        rw [read] at decoded
        cases decoded
        exact ⟨payload, rfl, told⟩
      · intro given
        rcases given with ⟨_, ⟨⟩, told⟩
        exact ⟨_, payload, rfl, read, told⟩

end Sending

section Answers

variable {response : QueryResponse Outcome}

/-- What the client is to read: the response, or the bounded one in its place. -/
def QueryResponse.answer (response : QueryResponse Outcome) : QueryResponse ReceivedOutcome :=
  match encodeQueryResponse response with
  | .ok _ => response.read
  | .error _ => (Session.boundedResponse response).read

/-- A response with a text that fits, and with readable lists wherever they can be encoded. -/
structure QueryResponse.Deliverable (response : QueryResponse Outcome) : Prop where
  text : response.text.length ≤ maxQueryTextBytes
  readable : ∀ payload, encodeQueryResponse response = .ok payload → response.Readable

theorem boundedResponse_detailed : (Session.boundedResponse response).outcome.Detailed :=
  .bare rfl

theorem boundedResponse_readable (digest : response.digest.length = 32) :
    (Session.boundedResponse response).Readable :=
  ⟨Nat.zero_le _, ⟨Nat.zero_le _, List.forall_mem_nil _⟩,
    ⟨Nat.zero_le _, List.forall_mem_nil _⟩, ⟨Nat.zero_le _, List.forall_mem_nil _⟩, digest⟩

theorem boundedResponse_short (response : QueryResponse Outcome) :
    (Session.boundedResponse response).outcome.message.length ≤ maxDescriptionLength := by
  have fixed : (text "the query response exceeds the frame bound").length ≤
      maxDescriptionLength := by
    decide
  exact fixed

/-- The bounded response keeps the text, and can be sent when the text fits. -/
theorem encode_boundedResponse_iff (digest : response.digest.length = 32) :
    (∃ payload, encodeQueryResponse (Session.boundedResponse response) = .ok payload) ↔
      response.text.length ≤ maxQueryTextBytes := by
  constructor
  · intro given
    rcases given with ⟨payload, encoded⟩
    have kept : (Session.boundedResponse response).text.length ≤ maxQueryTextBytes :=
      encodeQueryResponse_text encoded
    exact kept
  · intro fits
    have short := boundedResponse_short response
    have outcome := (ByteLayout.whole_outcome boundedResponse_detailed).mpr short
    have most := ByteLayout.size_outcome_le boundedResponse_detailed short
    have digits : response.digest.toHex.length ≤ 64 := by
      rw [length_toHex, digest]
    have whole : (ByteLayout.queryResponse (Session.boundedResponse response).received).Whole := by
      simp only [ByteLayout.queryResponse, ByteLayout.responseContent, List.flatten_cons,
        List.flatten_nil, Layout.whole_append, Layout.whole_nil, ByteLayout.whole_text,
        ByteLayout.whole_list, ByteLayout.whole_unsigned, ByteLayout.whole_generation]
      simp [QueryResponse.received, Session.boundedResponse, fits, digits] at outcome ⊢
      exact outcome
    obtain ⟨payload, written⟩ := Layout.whole_iff.mp whole
    refine ⟨payload, encodeQueryResponse_eq_ok.mpr ⟨Nat.zero_le _, written, ?_⟩⟩
    rw [Layout.length_document written]
    simp only [ByteLayout.queryResponse, ByteLayout.responseContent, List.flatten_cons,
      List.flatten_nil, Layout.size_append, Layout.size_nil, ByteLayout.size_unsigned,
      ByteLayout.size_list, ByteLayout.size_generation]
    have content : Layout.size (ByteLayout.text (Session.boundedResponse response).received.text
        maxQueryTextBytes) = 4 + response.text.length := ByteLayout.size_text fits
    have hexadecimal : Layout.size (ByteLayout.text
        (Session.boundedResponse response).received.digest.toHex 64) =
          4 + response.digest.toHex.length := ByteLayout.size_text digits
    rw [content, hexadecimal]
    simp only [QueryResponse.received, Session.boundedResponse, List.flatMap_nil,
      Layout.size_nil] at most ⊢
    simp only [maxQueryTextBytes] at fits
    simp only [maxFrameBytes]
    omega

theorem encodeAnswer_bounded (payload : Text)
    (encoded : Session.encodeAnswer response = .ok payload) : payload.length ≤ maxFrameBytes := by
  unfold Session.encodeAnswer at encoded
  split at encoded
  · next written =>
      cases encoded
      exact encodeQueryResponse_bounded written
  · exact encodeQueryResponse_bounded encoded

/-- The client reads the answer to a query exactly when the response is deliverable. -/
theorem decode_encodeAnswer_iff (built : response.Built) :
    (∃ payload, Session.encodeAnswer response = .ok payload ∧
        decodeQueryResponse payload = .ok response.answer) ↔
      response.Deliverable := by
  unfold Session.encodeAnswer QueryResponse.answer
  cases encoded : encodeQueryResponse response with
  | ok payload =>
      have read := decodeQueryResponse_encoded built.outcome.few encoded
      constructor
      · intro given
        rcases given with ⟨_, ⟨⟩, told⟩
        refine ⟨encodeQueryResponse_text encoded, fun other again => ?_⟩
        exact read.mp told
      · intro deliverable
        exact ⟨payload, rfl, read.mpr (deliverable.readable payload encoded)⟩
  | error outcome =>
      dsimp only
      constructor
      · intro given
        rcases given with ⟨payload, bounded, _⟩
        refine ⟨(encode_boundedResponse_iff built.digest).mp ⟨payload, bounded⟩, ?_⟩
        intro other again
        rw [encoded] at again
        cases again
      · intro deliverable
        obtain ⟨payload, bounded⟩ :=
          (encode_boundedResponse_iff built.digest).mpr deliverable.text
        exact ⟨payload, bounded, (decodeQueryResponse_encoded boundedResponse_detailed.few
          bounded).mpr (boundedResponse_readable built.digest)⟩

end Answers

section Engine

open EngineService

variable (runtime : Runtime) (impl : EngineImpl) (query : QueryMessage)

theorem onQuery_built : (onQuery runtime impl query).Built where
  outcome := .bare (onQuery_plain runtime impl query).1
  digest := by
    rw [onQuery_digest]
    exact Sha256.length_finish _

/-- The engine's answer to a query reaches the client when its text and its lists allow it. -/
theorem onQuery_deliverable_iff :
    (onQuery runtime impl query).Deliverable ↔
      (onQuery runtime impl query).text.length ≤ maxQueryTextBytes ∧
        ((∃ payload, encodeQueryResponse (onQuery runtime impl query) = .ok payload) →
          Answerable impl query) := by
  have readable {payload : Text}
      (encoded : encodeQueryResponse (onQuery runtime impl query) = .ok payload) :
      (onQuery runtime impl query).Readable ↔ Answerable impl query := by
    rw [readable_iff_of_encoded (onQuery_built runtime impl query).digest encoded,
      answerable_iff runtime]
  constructor
  · intro deliverable
    refine ⟨deliverable.text, ?_⟩
    intro given
    rcases given with ⟨payload, encoded⟩
    exact (readable encoded).mp (deliverable.readable payload encoded)
  · intro given
    rcases given with ⟨text, answerable⟩
    exact ⟨text, fun payload encoded => (readable encoded).mpr (answerable ⟨payload, encoded⟩)⟩

end Engine

section Rounds

variable {service : CoordinatorService} {session : Session} {frame : Frame}

theorem sent_mutation {message : PortMutationMessage} (opened : session.helloSeen = true)
    (type : frame.type = .mutation) (decoded : decodeMutation frame.payload = .ok message) :
    (session.step ⟨service, .ok frame⟩).sent =
      sendEncoded .mutationAck frame.sequence
        (encodeOutcome (service.onMutation message).outcome) := by
  simp only [Session.step, Session.handle, type, Session.serveMutation, Session.afterHello,
    opened, decoded, Bool.not_true, Bool.false_eq_true, if_false]

theorem sent_query {message : QueryMessage} (opened : session.helloSeen = true)
    (type : frame.type = .query) (decoded : decodeQuery frame.payload = .ok message) :
    (session.step ⟨service, .ok frame⟩).sent =
      sendEncoded .queryAck frame.sequence
        (Session.encodeAnswer (service.onQuery message)) := by
  simp only [Session.step, Session.handle, type, Session.serveQuery, Session.afterHello,
    opened, decoded, Bool.not_true, Bool.false_eq_true, if_false]

/--
In an open session, a mutation is answered exactly when the message of its
outcome is bounded, and a query exactly when its response is deliverable.
-/
theorem requests_answered_iff (service : CoordinatorService) (session : Session) (frame : Frame)
    (opened : session.helloSeen = true) :
    (∀ message, frame.type = .mutation → decodeMutation frame.payload = .ok message →
      (service.onMutation message).outcome.Detailed →
        (Delivers .mutationAck frame.sequence decodeOutcome
            (service.onMutation message).outcome.received.normalised
            (session.step ⟨service, .ok frame⟩).sent ↔
          (service.onMutation message).outcome.message.length ≤ maxDescriptionLength)) ∧
    ∀ message, frame.type = .query → decodeQuery frame.payload = .ok message →
      (service.onQuery message).Built →
        (Delivers .queryAck frame.sequence decodeQueryResponse (service.onQuery message).answer
            (session.step ⟨service, .ok frame⟩).sent ↔
          (service.onQuery message).Deliverable) := by
  constructor
  · intro message type decoded detailed
    rw [sent_mutation opened type decoded,
      delivers_sendEncoded rfl encodeOutcome_bounded, ← encodeOutcome_ok_iff detailed]
    constructor
    · intro given
      rcases given with ⟨payload, encoded, _⟩
      exact ⟨payload, encoded⟩
    · intro given
      rcases given with ⟨payload, encoded⟩
      exact ⟨payload, encoded, decodeOutcome_encoded detailed.few encoded⟩
  · intro message type decoded built
    rw [sent_query opened type decoded, delivers_sendEncoded rfl encodeAnswer_bounded,
      decode_encodeAnswer_iff built]

end Rounds

namespace LongOutcome

open EngineService

/-- The adapter does not know what became of the apply, and says so at length. -/
def answers (length : Nat) : MutationAnswers where
  provider := Fixture.provider
  apply := { status := .outcomeUnknown, detail := List.replicate length 0x78 }

/-- What the engine answers to the request to configure a port. -/
def reply (length : Nat) : Reply :=
  (dispatch Fixture.runtime (answers length) LostMessages.bound (LostMessages.message {})).2

def Reply.outcome? : Reply → Option Outcome
  | .result answer => some answer.outcome
  | .undefinedBehaviour => none

theorem reply_result {length : Nat}
    (told : (Reply.outcome? (reply length)).map (fun outcome =>
      (outcome.details.isEmpty, outcome.message.length)) = some (true, length)) :
    ∃ result, reply length = .result result ∧ result.outcome.Detailed ∧
      result.outcome.message.length = length := by
  cases answered : reply length with
  | undefinedBehaviour =>
      rw [answered] at told
      cases told
  | result answer =>
      rw [answered] at told
      simp only [Reply.outcome?, Option.map_some, Option.some.injEq, Prod.mk.injEq] at told
      exact ⟨answer, rfl, .bare (List.isEmpty_iff.mp told.1), told.2⟩

set_option maxRecDepth 100000 in
theorem long_reply : ∃ result, reply 1025 = .result result ∧ result.outcome.Detailed ∧
    result.outcome.message.length = 1025 :=
  reply_result (by decide +kernel)

set_option maxRecDepth 100000 in
theorem short_reply : ∃ result, reply 1024 = .result result ∧ result.outcome.Detailed ∧
    result.outcome.message.length = 1024 :=
  reply_result (by decide +kernel)

/-- A service that answers the mutation so, and queries from the same engine. -/
def service (result : MutationResult) : CoordinatorService where
  onHello _ := (.success, .first)
  onRegisterPublisher _ := .success
  onMutation _ := result
  onQuery := onQuery Fixture.runtime LostMessages.bound
  onFence _ := .success

def session : Session where
  helloSeen := true

def request (payload : Text) : Frame where
  type := .mutation
  sequence := 7
  payload

theorem decodable : ∃ payload, decodeMutation payload = .ok (LostMessages.message {}) := by
  obtain ⟨payload, encoded⟩ := LostMessages.plain_encoded
  exact ⟨payload, (decodeMutation_encoded (LostMessages.lawful LostMessages.plain_legal)
    encoded).mpr rfl⟩

def infoQuery : QueryMessage where
  kind := .engineInfo

def infoRequest (payload : Text) : Frame where
  type := .query
  sequence := 8
  payload

set_option maxRecDepth 100000 in
theorem info_decodable : ∃ payload, decodeQuery payload = .ok infoQuery := by
  refine ⟨(ByteWriter.writeQuery { limit := maxFrameBytes } infoQuery).out, ?_⟩
  decide +kernel

set_option maxRecDepth 100000 in
theorem info_short : (onQuery Fixture.runtime LostMessages.bound infoQuery).text.length ≤
    maxQueryTextBytes := by
  decide +kernel

theorem info_answerable (impl : EngineImpl) : Answerable impl infoQuery := trivial

theorem info_built (result : MutationResult) :
    ((service result).onQuery infoQuery).Built :=
  onQuery_built Fixture.runtime LostMessages.bound infoQuery

theorem info_deliverable (result : MutationResult) :
    ((service result).onQuery infoQuery).Deliverable :=
  (onQuery_deliverable_iff Fixture.runtime LostMessages.bound infoQuery).mpr
    ⟨info_short, fun _ => info_answerable _⟩

/-- A message of 1024 bytes is answered, and so is the query for the state of the engine. -/
theorem answered :
    (∃ result payload, reply 1024 = .result result ∧
      Delivers .mutationAck 7 decodeOutcome result.outcome.received.normalised
        (session.step ⟨service result, .ok (request payload)⟩).sent) ∧
    ∀ result, ∃ payload, Delivers .queryAck 8 decodeQueryResponse
      ((service result).onQuery infoQuery).answer
        (session.step ⟨service result, .ok (infoRequest payload)⟩).sent := by
  constructor
  · obtain ⟨result, told, detailed, length⟩ := short_reply
    obtain ⟨payload, decoded⟩ := decodable
    have answers := (requests_answered_iff (service result) session (request payload) rfl).1
      (LostMessages.message {}) rfl decoded detailed
    exact ⟨result, payload, told, answers.mpr (Nat.le_of_eq length)⟩
  · intro result
    obtain ⟨payload, decoded⟩ := info_decodable
    have answers := (requests_answered_iff (service result) session (infoRequest payload) rfl).2
      infoQuery rfl decoded (info_built result)
    exact ⟨payload, answers.mpr (info_deliverable result)⟩

/-- A message of 1025 bytes cannot be encoded, and the request is not answered at all. -/
theorem unanswered :
    ∃ result, reply 1025 = .result result ∧
      ¬∀ (session : Session) (frame : Frame) (message : PortMutationMessage),
        session.helloSeen = true → frame.type = .mutation →
          decodeMutation frame.payload = .ok message →
            ∃ answer, Delivers .mutationAck frame.sequence decodeOutcome answer
              (session.step ⟨service result, .ok frame⟩).sent := by
  obtain ⟨result, told, detailed, length⟩ := long_reply
  refine ⟨result, told, fun every => ?_⟩
  obtain ⟨payload, decoded⟩ := decodable
  obtain ⟨answer, delivered⟩ := every session (request payload) _ rfl rfl decoded
  have sent : (session.step ⟨service result, .ok (request payload)⟩).sent =
      sendEncoded .mutationAck 7 (encodeOutcome result.outcome) :=
    sent_mutation rfl rfl decoded
  rw [sent] at delivered
  obtain ⟨encoded, written, _⟩ :=
    (delivers_sendEncoded rfl encodeOutcome_bounded).mp delivered
  have short := (encodeOutcome_ok_iff detailed).mp ⟨encoded, written⟩
  rw [length] at short
  exact absurd short (by decide)

end LongOutcome

end PortFabric
