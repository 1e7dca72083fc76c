import PortFabric.Protocol.StreamProperties

/-!
# Stream integrity

A connection that is cut at any byte, in pieces of any size: the server handles
the frames that arrived as a whole, in their order, and nothing else.
-/

set_option autoImplicit false

namespace PortFabric

namespace Frame

/-- The frames of which every byte is among the bytes that arrived. -/
def whole : List Frame → Text → List Frame
  | [], _ => []
  | frame :: frames, bytes =>
      if frame.document <+: bytes then
        frame :: whole frames (bytes.drop frame.document.length)
      else
        []

theorem whole_prefix (frames : List Frame) (bytes : Text) : whole frames bytes <+: frames := by
  induction frames generalizing bytes with
  | nil => exact List.nil_prefix
  | cons frame frames ih =>
      rw [whole]
      split
      · exact List.cons_prefix_cons.mpr ⟨rfl, ih _⟩
      · exact List.nil_prefix

theorem whole_stream (frames : List Frame) : whole frames (stream frames) = frames := by
  induction frames with
  | nil => rfl
  | cons frame frames ih =>
      have front : frame.document <+: stream (frame :: frames) := List.prefix_append ..
      rw [whole, if_pos front, stream, List.flatMap_cons, List.drop_left' rfl]
      exact congrArg (frame :: ·) ih

end Frame

/-- The rounds that handle the frames, and the one that finds the stream at its end. -/
def receptions (error : Text) : List Frame → List CoordinatorService → List Reception
  | _, [] => []
  | [], service :: _ => [⟨service, .error (.lost error)⟩]
  | frame :: frames, service :: services =>
      ⟨service, .ok frame⟩ :: receptions error frames services

section Rounds

variable {front back : Connection} {frames : List Frame} {bytes : Text}

theorem receive_over (closed : Text) (closing : back.Over) :
    ∃ error, receive closed back = .error (.lost error) := by
  have carried : Connection.Carries [] [] := rfl
  have short : ([] : Text).length < frameHeaderSize := by decide
  obtain ⟨error, lost⟩ := receiveExact_short closed carried closing short
  rw [List.nil_append] at lost
  exact ⟨error, by simp only [receive, lost]⟩

/-- The rounds of a cut connection are those of the frames that arrived as a whole. -/
theorem serveConnection_cut (sendable : ∀ frame ∈ frames, frame.Sendable)
    (cut : bytes <+: Frame.stream frames) (carried : front.Carries bytes) (closing : back.Over)
    (session : Session) (services : List CoordinatorService) :
    ∃ error, session.serveConnection (front ++ back) services =
      session.serve (receptions error (Frame.whole frames bytes) services) := by
  induction frames generalizing bytes front session services with
  | nil =>
      obtain rfl : bytes = [] := List.prefix_nil.mp cut
      obtain rfl := Connection.eq_nil_of_carries carried
      obtain ⟨error, lost⟩ := receive_over "the peer closed the connection" closing
      refine ⟨error, ?_⟩
      cases services with
      | nil => rfl
      | cons service services =>
          simp only [Session.serveConnection, List.nil_append, serveReceive, lost, Frame.whole,
            receptions, Session.serve]
          split <;> rfl
  | cons frame frames ih =>
      have legal := sendable frame List.mem_cons_self
      have others : ∀ other ∈ frames, other.Sendable :=
        fun other member => sendable other (List.mem_cons_of_mem _ member)
      rw [Frame.stream, List.flatMap_cons] at cut
      by_cases arrived : frame.document <+: bytes
      · obtain ⟨more, rfl⟩ := arrived
        have later : more <+: Frame.stream frames := (List.prefix_append_right_inj _).mp cut
        obtain ⟨rest, received, left⟩ :=
          receive_document "the peer closed the connection" back legal carried
        rw [Frame.whole, if_pos (List.prefix_append ..), List.drop_left' rfl]
        cases services with
        | nil => exact ⟨[], rfl⟩
        | cons service services =>
            obtain ⟨error, rounds⟩ := ih others later left
              (session.step ⟨service, .ok frame⟩).session services
            refine ⟨error, ?_⟩
            simp only [Session.serveConnection, serveReceive, received, receptions, Session.serve,
              rounds]
      · rw [Frame.whole, if_neg arrived]
        have part : bytes <+: frame.document := by
          obtain within | beyond := List.prefix_or_prefix_of_prefix cut (List.prefix_append ..)
          · exact within
          · exact absurd beyond arrived
        have short : bytes.length < frame.document.length := by
          refine Nat.lt_of_le_of_ne part.length_le fun same => arrived ?_
          rw [part.eq_of_length same]
        obtain ⟨error, lost⟩ := receive_cut "the peer closed the connection" legal part short
          carried closing
        refine ⟨error, ?_⟩
        cases services with
        | nil => rfl
        | cons service services =>
            simp only [Session.serveConnection, serveReceive, lost, receptions, Session.serve]
            split <;> rfl

/-- The rounds of the first frames come first among those of all frames. -/
theorem serve_receptions_prefix {first : List Frame} (earlier : first <+: frames)
    (error other : Text) (session : Session) (services : List CoordinatorService) :
    (session.serve (receptions error first services)).flatMap Served.calls <+:
        (session.serve (receptions other frames services)).flatMap Served.calls ∧
      (session.serve (receptions error first services)).flatMap Served.sent <+:
        (session.serve (receptions other frames services)).flatMap Served.sent := by
  induction services generalizing first frames session with
  | nil => cases first <;> exact ⟨List.nil_prefix, List.nil_prefix⟩
  | cons service services ih =>
      cases first with
      | nil =>
          have silent : (session.serve (receptions error [] (service :: services))) =
              [{ session := { session with ended := true } }] := by
            simp only [receptions, Session.serve]
            split <;> rfl
          rw [silent]
          exact ⟨List.nil_prefix, List.nil_prefix⟩
      | cons frame first =>
          obtain ⟨later, rfl⟩ := earlier
          simp only [List.cons_append, receptions, Session.serve, List.flatMap_cons]
          split
          · exact ⟨List.prefix_rfl, List.prefix_rfl⟩
          · obtain ⟨calls, sent⟩ := ih (List.prefix_append first later)
              (session.step ⟨service, .ok frame⟩).session
            exact ⟨(List.prefix_append_right_inj _).mpr calls,
              (List.prefix_append_right_inj _).mpr sent⟩

end Rounds

/--
However the stream of some frames is cut into pieces and wherever it breaks off,
the server handles exactly the frames that arrived as a whole: it calls the
service and answers as it does on the unbroken stream, up to that point.
-/
theorem broken_stream_served {frames : List Frame}
    (sendable : ∀ frame ∈ frames, frame.Sendable) {bytes : Text}
    (cut : bytes <+: Frame.stream frames) {front back unbroken : Connection}
    (carried : front.Carries bytes) (closing : back.Over)
    (complete : unbroken.Carries (Frame.stream frames)) (session : Session)
    (services : List CoordinatorService) :
    (∃ error, session.serveConnection (front ++ back) services =
        session.serve (receptions error (Frame.whole frames bytes) services)) ∧
      (session.serveConnection (front ++ back) services).flatMap Served.calls <+:
        (session.serveConnection unbroken services).flatMap Served.calls ∧
      (session.serveConnection (front ++ back) services).flatMap Served.sent <+:
        (session.serveConnection unbroken services).flatMap Served.sent := by
  obtain ⟨error, rounds⟩ := serveConnection_cut sendable cut carried closing session services
  have ends : Connection.Over [] := trivial
  obtain ⟨last, whole⟩ :=
    serveConnection_cut sendable List.prefix_rfl complete ends session services
  rw [List.append_nil, Frame.whole_stream] at whole
  refine ⟨⟨error, rounds⟩, ?_⟩
  rw [rounds, whole]
  exact serve_receptions_prefix (Frame.whole_prefix frames bytes) error last session services

namespace LostHeartbeat

def service : CoordinatorService where
  onHello _ := (.success, .first)
  onRegisterPublisher _ := .success
  onMutation _ := { outcome := .success }
  onQuery message := { outcome := .success, kind := message.kind }
  onFence _ := .success

def heartbeat (sequence : UInt64) : Frame where
  type := .heartbeat
  sequence

def frames : List Frame := [heartbeat 1, heartbeat 2]

/-- The first heartbeat arrives, and then the connection fails. -/
def arriving : Connection := [.bytes (heartbeat 1).document] ++ [.failed "reset"]

def unbroken : Connection := [.bytes (Frame.stream frames)]

theorem sendable : ∀ frame ∈ frames, frame.Sendable := by
  intro frame member
  simp only [frames, List.mem_cons, List.not_mem_nil, or_false] at member
  rcases member with rfl | rfl
  · exact ⟨rfl, Nat.zero_le _⟩
  · exact ⟨rfl, Nat.zero_le _⟩

theorem document_ne_nil (frame : Frame) (sendable : frame.Sendable) : frame.document ≠ [] := by
  intro empty
  have length := sendable.length_document
  rw [empty, List.length_nil, frameHeaderSize] at length
  omega

end LostHeartbeat

/-- The answer to the first heartbeat is the first answer on the unbroken stream. -/
theorem heartbeat_answered :
    (({} : Session).serveConnection LostHeartbeat.arriving
        [LostHeartbeat.service, LostHeartbeat.service]).flatMap Served.sent <+:
      (({} : Session).serveConnection LostHeartbeat.unbroken
        [LostHeartbeat.service, LostHeartbeat.service]).flatMap Served.sent := by
  have first : (LostHeartbeat.heartbeat 1).Sendable := ⟨rfl, Nat.zero_le _⟩
  have cut : (LostHeartbeat.heartbeat 1).document <+: Frame.stream LostHeartbeat.frames :=
    List.prefix_append ..
  have carried : Connection.Carries [.bytes (LostHeartbeat.heartbeat 1).document]
      (LostHeartbeat.heartbeat 1).document :=
    ⟨LostHeartbeat.document_ne_nil _ first, [], (List.append_nil _).symm, rfl⟩
  have complete : LostHeartbeat.unbroken.Carries (Frame.stream LostHeartbeat.frames) := by
    refine ⟨fun empty => ?_, [], (List.append_nil _).symm, rfl⟩
    exact LostHeartbeat.document_ne_nil _ first (List.append_eq_nil_iff.mp empty).1
  have closing : Connection.Over [.failed "reset"] := ⟨_, rfl⟩
  exact (broken_stream_served LostHeartbeat.sendable cut carried closing complete {}
    [LostHeartbeat.service, LostHeartbeat.service]).2.2

end PortFabric
