import PortFabric.Engine.Fixture
import PortFabric.Library.Histories
import PortFabric.Protocol.CoordinatorProperties

/-!
# Coordinated sessions

Many sessions in front of one engine, in any interleaving with each other and
with the host. Each session is served as by its own serve loop, and a mutation
message is answered with the reply to what this very message started.
-/

set_option autoImplicit false

namespace PortFabric

open Runs

/-- The rounds of a session that are over, round by round. -/
inductive Session.Rounds : List Reception → List Served → Session → Prop where
  | none : Rounds [] [] {}
  | next {receptions : List Reception} {served : List Served} {session : Session}
      (rounds : Rounds receptions served session) (live : session.ended = false)
      (reception : Reception) :
      Rounds (receptions ++ [reception]) (served ++ [session.step reception])
        (session.step reception).session

theorem Session.Rounds.serve_append {receptions : List Reception} {served : List Served}
    {session : Session} (rounds : Session.Rounds receptions served session)
    (later : List Reception) :
    ({} : Session).serve (receptions ++ later) =
      served ++ if session.ended then [] else session.serve later := by
  induction rounds generalizing later with
  | none => rfl
  | next rounds live reception ih =>
      rw [List.append_assoc, ih, live, List.append_assoc]
      rfl

theorem Session.Rounds.serve {receptions : List Reception} {served : List Served}
    {session : Session} (rounds : Session.Rounds receptions served session) :
    ({} : Session).serve receptions = served := by
  have whole := rounds.serve_append []
  rw [List.append_nil] at whole
  rw [whole]
  cases session.ended <;> simp [Session.serve]

namespace FabricCoordinator

/-- The step in which the message of a thread gets its answer from the engine. -/
inductive Answered (runtime : Runtime) (thread : Nat) (message : PortMutationMessage)
    (result : MutationResult) (state : FabricCoordinator) : CoordinatorEvent → Prop where
  | refused {received : Except ReceiveFailure Frame} {response : QueryResponse Outcome}
      (refuses : Refuses state.engine message result) :
      Answered runtime thread message result state (.receive thread received response)
  | concluded {answers : MutationAnswers} {flight : Flight}
      (requested : message.request = .ok (.mutate flight.mutation))
      (flying : state.fabric.system.flights thread = some flight)
      (replied : (flight.advance runtime answers state.engine).2 = .error (.result result)) :
      Answered runtime thread message result state (.advance thread answers)
  | bound {answers : MutationAnswers} {flight : BindingFlight}
      (requested : message.request = .ok (.bind flight.request))
      (flying : state.fabric.bindings thread = some flight)
      (replied : (flight.advance runtime answers state.engine).2 = .error result) :
      Answered runtime thread message result state (.advance thread answers)

/-- A round over a mutation message, and the step that answered it. -/
def Backed (runtime : Runtime) (start : FabricCoordinator) (events : List CoordinatorEvent)
    (thread : Nat) (round : Served) : Prop :=
  ∀ message, round.calls = [.mutation message] → ∃ frame result,
    .ok frame ∈ yields (step runtime) (takes thread) start events ∧
      decodeMutation frame.payload = .ok message ∧
      round.sent = sendEncoded .mutationAck frame.sequence (encodeOutcome result.outcome) ∧
      Passes (step runtime) (Answered runtime thread message result) start events

/-- What the history of a run says about a session. -/
structure Attended (runtime : Runtime) (start : FabricCoordinator)
    (events : List CoordinatorEvent) (thread : Nat) (conversation : SessionThread) : Prop where
  rounds : ∃ receptions, Session.Rounds receptions conversation.served conversation.session ∧
    yields (step runtime) (takes thread) start events =
      receptions.map Reception.received ++ (conversation.errand.frame?.map Except.ok).toList
  backed : ∀ round ∈ conversation.served, Backed runtime start events thread round

/-- What the history of a run says about the coordinator it leads to. -/
structure Recounts (runtime : Runtime) (start : FabricCoordinator)
    (events : List CoordinatorEvent) (state : FabricCoordinator) : Prop where
  coherent : state.Coherent
  silent : ∀ thread, state.threads thread = none →
    yields (step runtime) (takes thread) start events = []
  attended : ∀ thread conversation, state.threads thread = some conversation →
    Attended runtime start events thread conversation

section Histories

variable {runtime : Runtime} {start : FabricCoordinator} {events : List CoordinatorEvent}
  {event : CoordinatorEvent} {thread : Nat} {conversation : SessionThread}

theorem Backed.concat {round : Served} (backed : Backed runtime start events thread round)
    (event : CoordinatorEvent) : Backed runtime start (events ++ [event]) thread round := by
  intro message calls
  obtain ⟨frame, result, taken, decoded, sent, passes⟩ := backed message calls
  refine ⟨frame, result, ?_, decoded, sent, passes.concat event⟩
  rw [yields_concat]
  exact List.mem_append_left _ taken

/-- A step in which the thread takes nothing and keeps its rounds and its frame. -/
theorem Attended.still {after : SessionThread}
    (attended : Attended runtime start events thread conversation)
    (untaken : (run (step runtime) start events).takes thread event = [])
    (served : after.served = conversation.served) (session : after.session = conversation.session)
    (frame : after.errand.frame? = conversation.errand.frame?) :
    Attended runtime start (events ++ [event]) thread after := by
  obtain ⟨receptions, rounds, taken⟩ := attended.rounds
  refine ⟨⟨receptions, ?_, ?_⟩, ?_⟩
  · rw [served, session]
    exact rounds
  · rw [yields_concat, untaken, List.append_nil, taken, frame]
  · rw [served]
    intro round member
    exact (attended.backed round member).concat event

/-- The round over the frame that was taken last. -/
theorem Attended.conclude {reception : Reception}
    (attended : Attended runtime start events thread conversation)
    (live : conversation.session.ended = false)
    (taken : (conversation.errand.frame?.map Except.ok).toList ++
      (run (step runtime) start events).takes thread event = [reception.received])
    (answered : ∀ frame message, reception.received = .ok frame →
      conversation.session.Asks frame message →
      Answered runtime thread message (reception.service.onMutation message)
        (run (step runtime) start events) event) :
    Attended runtime start (events ++ [event]) thread (conversation.conclude reception) := by
  obtain ⟨receptions, rounds, former⟩ := attended.rounds
  have latter : yields (step runtime) (takes thread) start (events ++ [event]) =
      (receptions ++ [reception]).map Reception.received := by
    rw [yields_concat, former, List.append_assoc, taken, List.map_append]
    rfl
  refine ⟨⟨receptions ++ [reception], rounds.next live reception, ?_⟩, ?_⟩
  · rw [latter]
    exact (List.append_nil _).symm
  · intro round member
    rcases List.mem_append.mp member with earlier | now
    · exact (attended.backed round earlier).concat event
    · rw [List.mem_singleton] at now
      intro message calls
      rw [now] at calls ⊢
      cases received : reception.received with
      | error failure =>
          rw [Session.step, received] at calls
          cases failure <;> cases calls
      | ok frame =>
          have same : reception = ⟨reception.service, .ok frame⟩ := by rw [← received]
          rw [same] at calls
          have asks : conversation.session.Asks frame message :=
            Session.asks_of_called live (by rw [calls]; rfl)
          refine ⟨frame, reception.service.onMutation message, ?_, asks.decoded, ?_,
            .last (answered frame message received asks)⟩
          · rw [latter, ← received]
            exact List.mem_map.mpr ⟨reception, by simp, rfl⟩
          · rw [same, asks.step]

/-- A waiting thread takes what it receives. -/
theorem takes_idle {state : FabricCoordinator} {received : Except ReceiveFailure Frame}
    {response : QueryResponse Outcome} (there : state.threads thread = some conversation)
    (live : conversation.session.ended = false) (idle : conversation.errand = .idle) :
    state.takes thread (.receive thread received response) = [received] := by
  rw [takes_receive there, idle]
  simp [live, Errand.frame?]

theorem takes_other {state : FabricCoordinator} {receiver : Nat}
    {received : Except ReceiveFailure Frame} {response : QueryResponse Outcome}
    (different : thread ≠ receiver) :
    state.takes thread (.receive receiver received response) = [] := by
  simp only [takes]
  split
  · rfl
  · rw [if_neg fun same => different same.1.symm]

/-- A step in which one thread is put in its place and the others take nothing. -/
theorem Recounts.withThread (recounts : Recounts runtime start events
      (run (step runtime) start events))
    (action : Option BindingAction) {after : SessionThread}
    (stepped : (run (step runtime) start events).step runtime event =
      (action.elim (run (step runtime) start events)
        ((run (step runtime) start events).act runtime)).withThread thread after)
    (others : ∀ other, other ≠ thread →
      (run (step runtime) start events).takes other event = [])
    (attended : Attended runtime start (events ++ [event]) thread after) :
    Recounts runtime start (events ++ [event])
      ((run (step runtime) start events).step runtime event) := by
  have kept : (action.elim (run (step runtime) start events)
      ((run (step runtime) start events).act runtime)).threads =
        (run (step runtime) start events).threads := by
    cases action <;> rfl
  refine ⟨recounts.coherent.step event, ?_, ?_⟩
  · intro other absent
    rw [stepped, threads_withThread, kept] at absent
    split at absent
    · cases absent
    · next different =>
        rw [yields_concat, recounts.silent other absent, others other different]
        rfl
  · intro other conversation there
    rw [stepped, threads_withThread, kept] at there
    split at there
    · next same =>
        cases there
        rw [same]
        exact attended
    · next different =>
        exact (recounts.attended other conversation there).still (others other different) rfl rfl
          rfl

/-- A step in which every thread stays where it is. -/
theorem Recounts.still (recounts : Recounts runtime start events
      (run (step runtime) start events))
    (threads : ((run (step runtime) start events).step runtime event).threads =
      (run (step runtime) start events).threads)
    (untaken : ∀ thread, (run (step runtime) start events).takes thread event = []) :
    Recounts runtime start (events ++ [event])
      ((run (step runtime) start events).step runtime event) := by
  refine ⟨recounts.coherent.step event, ?_, ?_⟩
  · intro thread absent
    rw [threads] at absent
    rw [yields_concat, recounts.silent thread absent, untaken thread]
    rfl
  · intro thread conversation there
    rw [threads] at there
    exact (recounts.attended thread conversation there).still (untaken thread) rfl rfl rfl

/-- The reply of a section answers the message its thread waits for. -/
theorem Section.answers {state : FabricCoordinator} {errand : Errand} {action : BindingAction}
    {session : Session} {answers : MutationAnswers} {result : MutationResult} {frame : Frame}
    {message : PortMutationMessage}
    (moves : Section runtime state.fabric thread answers errand action (some (.result result)))
    (airborne : errand.Airborne state.fabric thread session) (asked : errand.frame? = some frame)
    (asks : session.Asks frame message) :
    Answered runtime thread message result state (.advance thread answers) := by
  generalize replied : some (Reply.result result) = replies at moves
  cases moves with
  | @mutation found told entered flight flying =>
      obtain ⟨asking, requested, ⟨_, same, rfl⟩, _⟩ := airborne
      cases same.symm.trans flying
      cases asked
      cases asks.decoded.symm.trans asking.decoded
      refine .concluded requested flying ?_
      cases advanced : (flight.advance runtime answers state.fabric.engine).2 with
      | ok next =>
          rw [advanced] at replied
          cases replied
      | error reply =>
          rw [advanced] at replied
          cases replied
          rfl
  | @binding found told entered flight flying =>
      obtain ⟨asking, requested, _, _, same, rfl⟩ := airborne
      cases same.symm.trans flying
      cases asked
      cases asks.decoded.symm.trans asking.decoded
      refine .bound requested flying ?_
      cases advanced : (flight.advance runtime answers state.fabric.engine).2 with
      | ok next =>
          rw [advanced] at replied
          cases replied
      | error reply =>
          rw [advanced] at replied
          cases replied
          rfl

theorem Errand.Airborne.live {fabric : BindingSystem} {errand : Errand} {session : Session}
    {answers : MutationAnswers} {action : BindingAction} {reply : Option Reply}
    (moves : Section runtime fabric thread answers errand action reply)
    (airborne : errand.Airborne fabric thread session) : session.ended = false := by
  cases moves with
  | mutation flying => exact airborne.1.live
  | binding flying => exact airborne.1.live

theorem Recounts.step (recounts : Recounts runtime start events
      (run (step runtime) start events)) (event : CoordinatorEvent) :
    Recounts runtime start (events ++ [event])
      ((run (step runtime) start events).step runtime event) := by
  have moves := step_moves runtime (run (FabricCoordinator.step runtime) start events) event
  generalize stepped : (run (FabricCoordinator.step runtime) start events).step runtime event =
    after at moves
  cases moves with
  | ignored untaken =>
      rw [← stepped]
      exact recounts.still (by rw [stepped]) untaken
  | @accepted thread unused grounded unbound =>
      rw [← stepped]
      refine recounts.withThread none stepped (fun _ _ => rfl) ⟨⟨[], .none, ?_⟩, ?_⟩
      · rw [yields_concat, recounts.silent thread unused]
        rfl
      · intro round member
        cases member
  | @round thread conversation response action reception there live idle publisher refused =>
      rw [← stepped]
      refine recounts.withThread action stepped (fun _ => takes_other) ?_
      refine (recounts.attended thread conversation there).conclude live ?_ ?_
      · rw [takes_idle there live idle, idle]
        rfl
      · intro frame message received asks
        exact .refused (refused frame message received asks)
  | @departed thread conversation frame response action errand there idle departs =>
      have asks : ∃ message, conversation.session.Asks frame message ∧
          errand.frame? = some frame := by
        cases departs with
        | mutation asks => exact ⟨_, asks, rfl⟩
        | binding asks => exact ⟨_, asks, rfl⟩
      obtain ⟨message, asks, pending⟩ := asks
      have attended := recounts.attended thread conversation there
      obtain ⟨receptions, rounds, former⟩ := attended.rounds
      rw [← stepped]
      refine recounts.withThread (some action) stepped (fun _ => takes_other)
        ⟨⟨receptions, rounds, ?_⟩, fun round member => (attended.backed round member).concat _⟩
      rw [yields_concat, former, takes_idle there asks.live idle, idle, pending]
      simp [Errand.frame?]
  | moved there moves =>
      rw [← stepped]
      exact recounts.still (by rw [stepped]; rfl) fun _ => rfl
  | @landed thread conversation answers action result frame service there moves asked answered =>
      have airborne := recounts.coherent thread conversation there
      rw [← stepped]
      refine recounts.withThread (some action) stepped (fun _ _ => rfl) ?_
      refine (recounts.attended thread conversation there).conclude
        (Errand.Airborne.live moves airborne) ?_ ?_
      · rw [asked]
        rfl
      · intro found message received asks
        cases received
        rw [answered message]
        exact moves.answers airborne asked asks
  | @crashed thread conversation answers action frame there moves asked =>
      rw [← stepped]
      refine recounts.withThread (some action) stepped (fun _ _ => rfl) ?_
      exact (recounts.attended thread conversation there).still rfl rfl rfl asked.symm
  | hosted apart =>
      rw [← stepped]
      exact recounts.still (by rw [stepped]; rfl) fun _ => rfl

theorem recounts_run (runtime : Runtime) (impl : EngineImpl) (events : List CoordinatorEvent) :
    Recounts runtime (initial impl) events
      (run (FabricCoordinator.step runtime) (initial impl) events) := by
  refine Runs.history (Recounts runtime (initial impl)) ?_ ?_ events
  · refine ⟨coherent_initial impl, fun _ _ => rfl, ?_⟩
    intro thread conversation absent
    cases absent
  · intro labels label held
    exact held.step label

end Histories

/--
However the threads of the sessions, their critical sections and the host are
interleaved, a session is served as by its own serve loop over what it received:
every frame is handled once and in order, up to the one it is busy with. The
answer to each mutation message is the reply that this message's own mutation or
binding ended with, or a refusal of the message.
-/
theorem sessions_served_in_order (runtime : Runtime) (impl : EngineImpl)
    (events : List CoordinatorEvent) {thread : Nat} {conversation : SessionThread}
    (there : (run (step runtime) (initial impl) events).threads thread = some conversation) :
    (∃ receptions, ({} : Session).serve receptions = conversation.served ∧
      yields (step runtime) (takes thread) (initial impl) events =
        receptions.map Reception.received ++ (conversation.errand.frame?.map Except.ok).toList) ∧
      ∀ round ∈ conversation.served, Backed runtime (initial impl) events thread round := by
  obtain ⟨⟨receptions, rounds, taken⟩, backed⟩ :=
    (recounts_run runtime impl events).attended thread conversation there
  exact ⟨⟨receptions, rounds.serve, taken⟩, backed⟩

end FabricCoordinator

namespace TwoSessions

open FabricCoordinator

def port : PortId := "syn-sw1-p01"

def hello : HelloMessage where
  publisher := "agent-a"
  boot := "boot-a"

/-- A message of a worker about the port. -/
def message (kind : UInt8) (attempt : MutationAttemptId) : PortMutationMessage where
  kind
  authority := { epoch := .first, publisher := "agent-a", boot := "boot-a", attempt }
  port
  parentDevice := Fixture.device
  deviceGeneration := .first
  ownerKind := 1
  owner := "owner-a"

def receive (thread : Nat) (type : MessageType) (sequence : UInt64)
    (encoded : Except Outcome Text) : CoordinatorEvent :=
  .receive thread (.ok { type, sequence, payload := encoded.toOption.getD [] })
    { outcome := {} }

def fresh : EngineImpl := .initial Fixture.runtime.config

/-- The first session binds the port and claims it while the second one is served. -/
def events : List CoordinatorEvent :=
  [ .accept 0, .accept 1, receive 0 .hello 1 (encodeHello hello),
    receive 1 .hello 1 (encodeHello hello),
    receive 0 .mutation 2 (encodeMutation (message 0 "bind-1")) ] ++
  List.replicate 4 (.advance 0 { provider := Fixture.provider }) ++
  [ receive 0 .mutation 3 (encodeMutation (message 9 "claim-1")), .advance 0 {}, .advance 0 {},
    receive 1 .heartbeat 2 (.ok []) ] ++
  List.replicate 6 (.advance 0 {})

set_option maxRecDepth 100000 in
/-- The last round of the first session is over the claim. -/
theorem claimed :
    ((run (step Fixture.runtime) (initial fresh) events).threads 0).any (fun conversation =>
      conversation.served.length = 3 &&
        conversation.served.getLast?.any fun round =>
          round.calls = [.mutation (message 9 "claim-1")]) = true := by
  decide +kernel

end TwoSessions

/-- The binding and the claim of a session are answered behind its Hello. -/
theorem two_sessions_served : ∃ conversation,
    (run (FabricCoordinator.step Fixture.runtime) (.initial TwoSessions.fresh)
        TwoSessions.events).threads 0 = some conversation ∧
      conversation.served.length = 3 ∧
      ∀ round ∈ conversation.served, FabricCoordinator.Backed Fixture.runtime
        (.initial TwoSessions.fresh) TwoSessions.events 0 round := by
  have claimed := TwoSessions.claimed
  rw [Option.any_eq_true] at claimed
  obtain ⟨conversation, there, rounds⟩ := claimed
  simp only [Bool.and_eq_true, decide_eq_true_eq] at rounds
  exact ⟨conversation, there, rounds.1,
    (FabricCoordinator.sessions_served_in_order Fixture.runtime TwoSessions.fresh
      TwoSessions.events there).2⟩

end PortFabric
