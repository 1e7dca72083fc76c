import PortFabric.Engine.Replies
import PortFabric.Guarantees.AttemptReplay
import PortFabric.Guarantees.CoordinatedSessions
import PortFabric.Guarantees.UntrustedMessages
import PortFabric.Protocol.FrameProperties
import PortFabric.Protocol.MessageIdentity

/-!
# Acknowledged mutations

When a session answers that a mutation was committed, the record of the port has
remembered the attempt: at some step of the run it was the last mutation there.
-/

set_option autoImplicit false

namespace PortFabric

open Checks Runs

section Sections

variable {runtime : Runtime} {answers : MutationAnswers} {impl : EngineImpl}
  {recorded : PortId → MutationAttemptId → Prop}

/-- A flight only carries news of a commit that the records have seen. -/
def Flight.Reports (recorded : PortId → MutationAttemptId → Prop) : Flight → Prop
  | conclude _ _ _ (.reject reply) => reply.isCommitted = false
  | conclude _ _ _ (.uncertain _ detail code reply) =>
      (reply.getD (.rejected code detail)).outcome.code.isCommitted = false
  | persist _ (.uncertain result) => result.outcome.code.isCommitted = false
  | persist entered (.committed _) => recorded entered.port entered.attempt
  | _ => True

theorem Flight.Reports.imp {flight : Flight} {later : PortId → MutationAttemptId → Prop}
    (reports : flight.Reports recorded)
    (kept : ∀ port attempt, recorded port attempt → later port attempt) :
    flight.Reports later := by
  cases flight with
  | conclude mutation snapshot applied decision => cases decision <;> exact reports
  | persist mutation settlement =>
      cases settlement with
      | committed final => exact kept _ _ reports
      | uncertain result => exact reports
  | _ => trivial

/-- What a section leaves in flight, or replies, is backed by the records it met or left. -/
def Flight.Backs (recorded : PortId → MutationAttemptId → Prop) (flight : Flight) :
    Except Reply Flight → Prop
  | .ok next => next.Reports recorded
  | .error reply => reply.isCommitted = true →
      recorded flight.mutation.port flight.mutation.attempt

private theorem backs_refused {flight : Flight} {ended : Except Reply Flight}
    (refuses : Refuses Reply.Uncommitted ended)
    (goes : ∀ next, ended = .ok next → next.Reports recorded) : flight.Backs recorded ended := by
  cases ended with
  | ok next => exact goes next rfl
  | error reply =>
      intro committed
      have refused : reply.isCommitted = false := refuses reply rfl
      rw [refused] at committed
      cases committed

theorem EngineImpl.lastAttempt_of_found {port : PortId} {record : PortRecord}
    (found : impl.records[port]? = some record) :
    impl.lastAttempt port = some record.lastMutation.attempt := by
  rw [EngineImpl.lastAttempt, found]
  rfl

/-- A commit reports an earlier one only where the record remembers the attempt of the plan. -/
theorem EngineImpl.commitRecord_committed {port : PortId} {plan : MutationPlan}
    {applied : AppliedEvidence} {settled : Bool} {result : MutationResult}
    (refused : impl.commitRecord port plan applied settled = .error result)
    (committed : result.outcome.code.isCommitted = true) :
    impl.lastAttempt port = some plan.next.lastMutation.attempt := by
  unfold EngineImpl.commitRecord at refused
  split at refused
  · cases refused
    cases committed
  · next current found =>
      split at refused
      · next same =>
          rw [EngineImpl.lastAttempt_of_found found, same.2]
      · split at refused
        · cases refused
          rw [MutationResult.reporting, Outcome.withDetail_code, Outcome.withDetail_code]
            at committed
          cases committed
        · split at refused
          · cases refused
            cases committed
          · split at refused
            · cases refused
              cases committed
            · cases refused

theorem BuiltFrom.proposed {mutation : Mutation} {snapshot : PortRecord}
    {proposal : MutationPlan} {evidence : AppliedEvidence} {settled : Bool}
    (built : BuiltFrom runtime mutation snapshot proposal evidence settled) :
    proposal.next.lastMutation.attempt = mutation.attempt := by
  have committed := built.attempt
  unfold EngineImpl.committedRecord at committed
  split at committed <;> exact committed

/-- The section of a commit. -/
theorem Flight.Reports.commit {mutation : Mutation} {snapshot : PortRecord}
    {applied : Option AdapterApplyStatus} {proposal : MutationPlan} {evidence : AppliedEvidence}
    {settled : Bool}
    (built : BuiltFrom runtime mutation snapshot proposal evidence settled)
    (before : ∀ port attempt, impl.lastAttempt port = some attempt → recorded port attempt)
    (after : ∀ next,
      (concludeStep runtime mutation (.commit proposal evidence settled) impl).2 = .ok next →
        ∀ port attempt, (concludeStep runtime mutation (.commit proposal evidence settled)
          impl).1.lastAttempt port = some attempt → recorded port attempt) :
    (conclude mutation snapshot applied (.commit proposal evidence settled)).Backs recorded
      (concludeStep runtime mutation (.commit proposal evidence settled) impl).2 := by
  unfold concludeStep at after ⊢
  dsimp only at after ⊢
  cases stored : impl.commitRecord mutation.port proposal evidence settled with
  | error result =>
      intro committed
      have remembered := EngineImpl.commitRecord_committed stored committed
      rw [built.proposed] at remembered
      exact before _ _ remembered
  | ok committed =>
      rw [stored] at after
      obtain ⟨_, _, _, _, _, _, rfl⟩ := EngineImpl.commitRecord_ok stored
      refine after _ rfl _ _ ?_
      rw [EngineImpl.lastAttempt_of_found (OrderedMap.lookup_insert_self ..), built.attempt]

theorem Flight.Reports.advance (answers : MutationAnswers) {flight : Flight}
    (reports : flight.Reports recorded)
    (sound : flight.Sound runtime)
    (before : ∀ port attempt, impl.lastAttempt port = some attempt → recorded port attempt)
    (after : ∀ next, (flight.advance runtime answers impl).2 = .ok next → ∀ port attempt,
      (flight.advance runtime answers impl).1.lastAttempt port = some attempt →
        recorded port attempt) :
    flight.Backs recorded (flight.advance runtime answers impl).2 := by
  cases flight with
  | authority mutation =>
      refine backs_refused (.bind (authorise_refuses runtime impl mutation) fun _ => .ok _) ?_
      intro next went
      obtain ⟨_, _, same⟩ := bind_eq_ok.mp went
      cases same
      trivial
  | lookup mutation =>
      cases observed : observe impl mutation with
      | ok snapshot =>
          simp only [Flight.advance, observed]
          trivial
      | error reply =>
          simp only [Flight.advance, observed]
          intro committed
          obtain ⟨record, found, same⟩ := observe_committed observed committed
          have remembered := EngineImpl.lastAttempt_of_found found
          rw [same] at remembered
          exact before _ _ remembered
  | topology mutation snapshot =>
      refine backs_refused (.bind expectTopology_uncommitted fun _ =>
        .bind (snapshotGates_uncommitted runtime.config) fun _ => .ok _) ?_
      intro next went
      obtain ⟨_, _, went⟩ := bind_eq_ok.mp went
      obtain ⟨_, _, same⟩ := bind_eq_ok.mp went
      cases same
      trivial
  | context mutation snapshot =>
      refine backs_refused (.bind deviceGate_uncommitted fun _ => .ok _) ?_
      intro next went
      obtain ⟨_, _, same⟩ := bind_eq_ok.mp went
      cases same
      trivial
  | plan mutation snapshot context =>
      refine backs_refused (.bind preparePlan_uncommitted fun _ => .ok _) ?_
      intro next went
      obtain ⟨_, _, same⟩ := bind_eq_ok.mp went
      cases same
      trivial
  | apply mutation snapshot plan =>
      have uncommitted := @applyPlan_uncommitted runtime snapshot plan answers
      simp only [Flight.advance, Flight.Backs]
      cases decided : applyPlan runtime snapshot plan answers with
      | commit proposal evidence settled => trivial
      | reject reply =>
          rw [decided] at uncommitted
          exact uncommitted
      | uncertain generation detail code reply =>
          rw [decided] at uncommitted
          exact uncommitted
  | conclude mutation snapshot applied decision =>
      cases decision with
      | reject reply =>
          intro committed
          have refused : reply.isCommitted = false := reports
          rw [refused] at committed
          cases committed
      | commit proposal evidence settled => exact Reports.commit sound before after
      | uncertain generation detail code reply =>
          have refused : (reply.getD (.rejected code detail)).outcome.code.isCommitted = false :=
            reports
          simp only [Flight.advance, concludeStep]
          split
          · exact refused
          · intro committed
            rw [Reply.isCommitted, refused] at committed
            cases committed
  | persist mutation settlement =>
      cases settlement with
      | committed final => exact fun _ => reports
      | uncertain result =>
          intro committed
          have refused : result.outcome.code.isCommitted = false := reports
          rw [Reply.isCommitted, refused] at committed
          cases committed

/-- A binding behind its insertion has left its attempt in the record. -/
def BindingFlight.Reports (recorded : PortId → MutationAttemptId → Prop) : BindingFlight → Prop
  | device request _ => recorded request.port request.attempt
  | persist request _ => recorded request.port request.attempt
  | _ => True

theorem BindingFlight.Reports.imp {flight : BindingFlight}
    {later : PortId → MutationAttemptId → Prop} (reports : flight.Reports recorded)
    (kept : ∀ port attempt, recorded port attempt → later port attempt) :
    flight.Reports later := by
  cases flight with
  | device request evidence => exact kept _ _ reports
  | persist request evidence => exact kept _ _ reports
  | _ => trivial

/-- What a section of a binding leaves in flight, or replies. -/
def BindingFlight.Backs (recorded : PortId → MutationAttemptId → Prop) (flight : BindingFlight) :
    Except MutationResult BindingFlight → Prop
  | .ok next => next.Reports recorded
  | .error result => result.outcome.code.isCommitted = true →
      recorded flight.request.port flight.request.attempt

theorem existingBinding_committed {record : PortRecord} {request : PortBindingRequest}
    (committed : (existingBinding record request).outcome.code.isCommitted = true) :
    record.lastMutation.attempt = request.attempt := by
  unfold existingBinding at committed
  split at committed
  · rw [Outcome.withDetail_code, Outcome.withDetail_code] at committed
    cases committed
  · split at committed
    · next same => exact same.2
    · cases committed

theorem insertBinding_committed {request : PortBindingRequest}
    {evidence : Option CapabilityBinding} {result : MutationResult}
    (refused : insertBinding runtime impl request evidence = .error result)
    (committed : result.outcome.code.isCommitted = true) :
    impl.lastAttempt request.port = some request.attempt := by
  unfold insertBinding at refused
  split at refused
  · next record found =>
      cases refused
      rw [EngineImpl.lastAttempt_of_found found, existingBinding_committed committed]
  · split at refused
    · cases refused
      cases committed
    · dsimp only at refused
      split at refused
      · cases refused
        cases committed
      · cases refused

theorem BindingFlight.Reports.advance (runtime : Runtime) (answers : MutationAnswers)
    {flight : BindingFlight} (reports : flight.Reports recorded)
    (before : ∀ port attempt, impl.lastAttempt port = some attempt → recorded port attempt)
    (after : ∀ next, (flight.advance runtime answers impl).2 = .ok next → ∀ port attempt,
      (flight.advance runtime answers impl).1.lastAttempt port = some attempt →
        recorded port attempt) :
    flight.Backs recorded (flight.advance runtime answers impl).2 := by
  cases flight with
  | probe request => trivial
  | insert request evidence =>
      simp only [BindingFlight.advance] at after ⊢
      cases stored : insertBinding runtime impl request evidence with
      | error result =>
          intro committed
          exact before _ _ (insertBinding_committed stored committed)
      | ok inserted =>
          rw [stored] at after
          obtain ⟨_, _, rfl⟩ := insertBinding_ok stored
          refine after _ rfl _ _ ?_
          rw [EngineImpl.lastAttempt_of_found (OrderedMap.lookup_insert_self ..)]
          rfl
  | device request evidence =>
      simp only [BindingFlight.advance]
      split
      · intro _
        exact reports
      · exact reports
  | persist request evidence => exact fun _ => reports

end Sections

section Messages

variable {message : PortMutationMessage}

/-- A request keeps the port and the attempt of its message. -/
theorem PortMutationMessage.request_envelope {mutation : Mutation}
    (requested : message.request = .ok (.mutate mutation)) :
    mutation.envelope = message.envelope := by
  unfold request at requested
  split at requested
  · cases requested
  · next kind _ =>
      cases kind with
      | bindPort => cases requested
      | configure | reconfigure | administrative | observeExternalState =>
          dsimp only at requested
          split at requested
          · cases requested <;> rfl
          · cases requested <;> rfl
      | _ =>
          cases requested
          rfl

end Messages

namespace FabricCoordinator

/-- In some state of the run the attempt was the last mutation of the port. -/
def Remembered (runtime : Runtime) (start : FabricCoordinator) (events : List CoordinatorEvent)
    (port : PortId) (attempt : MutationAttemptId) : Prop :=
  Visits (step runtime) (fun state => state.engine.lastAttempt port = some attempt) start events

/-- What is in flight, and what was answered, only reports commits that took place. -/
structure Vouches (runtime : Runtime) (start : FabricCoordinator)
    (events : List CoordinatorEvent) (state : FabricCoordinator) : Prop where
  sound : state.fabric.system.Sound runtime
  flights : ∀ thread flight, state.fabric.system.flights thread = some flight →
    flight.Reports (Remembered runtime start events)
  bindings : ∀ thread flight, state.fabric.bindings thread = some flight →
    flight.Reports (Remembered runtime start events)
  answered : ∀ thread message result,
    Passes (step runtime) (Answered runtime thread message result) start events →
    result.outcome.code.isCommitted = true →
      Remembered runtime start events message.port message.authority.attempt

section Histories

variable {runtime : Runtime} {start : FabricCoordinator} {events : List CoordinatorEvent}
  {event : CoordinatorEvent}

theorem Remembered.now {port : PortId} {attempt : MutationAttemptId}
    (last : (run (step runtime) start events).engine.lastAttempt port = some attempt) :
    Remembered runtime start events port attempt :=
  Visits.now last

theorem Remembered.concat {port : PortId} {attempt : MutationAttemptId}
    (remembered : Remembered runtime start events port attempt) (event : CoordinatorEvent) :
    Remembered runtime start (events ++ [event]) port attempt :=
  Visits.concat remembered event

theorem Remembered.next {port : PortId} {attempt : MutationAttemptId}
    (last : ((run (step runtime) start events).step runtime event).engine.lastAttempt port =
      some attempt) : Remembered runtime start (events ++ [event]) port attempt := by
  refine Remembered.now ?_
  rw [run_append]
  exact last

theorem refuses_uncommitted {impl : EngineImpl} {message : PortMutationMessage}
    {result : MutationResult} (refuses : Refuses impl message result) :
    result.outcome.code.isCommitted = false := by
  unfold Refuses at refuses
  split at refuses
  · rw [refuses]
    rfl
  · unfold admitBinding at refuses
    repeat' split at refuses
    all_goals cases refuses
    all_goals rfl
  · unfold admitMutation at refuses
    repeat' split at refuses
    all_goals cases refuses
    all_goals rfl

/-- The answer of a step reports a commit only when the run has seen it. -/
theorem Vouches.answers {thread : Nat} {message : PortMutationMessage} {result : MutationResult}
    (vouches : Vouches runtime start events (run (step runtime) start events))
    (answered : Answered runtime thread message result (run (step runtime) start events) event)
    (committed : result.outcome.code.isCommitted = true) :
    Remembered runtime start events message.port message.authority.attempt := by
  cases answered with
  | refused refuses =>
      rw [refuses_uncommitted refuses] at committed
      cases committed
  | @concluded answers flight requested flying replied =>
      have backs := (vouches.flights thread flight flying).advance answers
        (vouches.sound thread flight flying) (fun _ _ => Remembered.now)
        (fun next went => by rw [replied] at went; cases went)
      rw [replied] at backs
      have same := PortMutationMessage.request_envelope requested
      have remembered := backs committed
      rw [Mutation.port, Mutation.attempt, Mutation.authority, same] at remembered
      exact remembered
  | @bound answers flight requested flying replied =>
      have backs := (vouches.bindings thread flight flying).advance runtime answers
        (fun _ _ => Remembered.now)
        (fun next went => by rw [replied] at went; cases went)
      rw [replied] at backs
      have remembered := backs committed
      rw [PortMutationMessage.request_bind requested] at remembered
      exact remembered

/-- A step of the mutations in flight. -/
theorem Vouches.flights_step {action : BindingAction} {thread : Nat} {flight : Flight}
    (vouches : Vouches runtime start events (run (step runtime) start events))
    (stepped : ((run (step runtime) start events).step runtime event).fabric =
      (run (step runtime) start events).fabric.step runtime action)
    (flying : ((run (step runtime) start events).fabric.step runtime action).system.flights thread =
      some flight) : flight.Reports (Remembered runtime start (events ++ [event])) := by
  have kept (found : (run (step runtime) start events).fabric.system.flights thread =
      some flight) : flight.Reports (Remembered runtime start (events ++ [event])) :=
    (vouches.flights thread flight found).imp fun _ _ remembered => remembered.concat event
  cases action with
  | bind binder request =>
      rw [BindingSystem.step_bind] at flying
      exact kept flying
  | advance mover answers =>
      rw [BindingSystem.advance_flights] at flying
      exact kept flying
  | act action =>
      rcases System.step_flights flying with ⟨found, _⟩ | ⟨mutation, _, rfl, _⟩ |
        ⟨answers, before, after, rfl, found, advanced⟩
      · exact kept found
      · trivial
      · have engine : ((run (step runtime) start events).step runtime event).engine = after := by
          rw [FabricCoordinator.engine, stepped]
          simp only [BindingSystem.step, BindingSystem.engine, System.step, found, advanced]
          rfl
        have backs := ((vouches.flights thread before found).imp
          fun _ _ remembered => remembered.concat event).advance answers
          (vouches.sound thread before found)
          (fun _ _ last => (Remembered.now last).concat event)
          (fun _ _ _ _ last => by rw [advanced, ← engine] at last; exact .next last)
        rw [advanced] at backs
        exact backs

/-- A step of the bindings in flight. -/
theorem Vouches.bindings_step {action : BindingAction} {thread : Nat} {flight : BindingFlight}
    (vouches : Vouches runtime start events (run (step runtime) start events))
    (stepped : ((run (step runtime) start events).step runtime event).fabric =
      (run (step runtime) start events).fabric.step runtime action)
    (flying : ((run (step runtime) start events).fabric.step runtime action).bindings thread =
      some flight) : flight.Reports (Remembered runtime start (events ++ [event])) := by
  rcases BindingSystem.step_bindings flying with found | ⟨request, _, rfl⟩ |
    ⟨answers, before, after, rfl, found, advanced⟩
  · exact (vouches.bindings thread flight found).imp fun _ _ remembered =>
      remembered.concat event
  · trivial
  · have engine : ((run (step runtime) start events).step runtime event).engine = after := by
      rw [FabricCoordinator.engine, stepped]
      simp only [BindingSystem.step, found]
      exact congrArg Prod.fst advanced
    have backs := ((vouches.bindings thread before found).imp
      fun _ _ remembered => remembered.concat event).advance runtime answers
      (fun _ _ last => (Remembered.now last).concat event)
      (fun _ _ _ _ last => by rw [advanced, ← engine] at last; exact .next last)
    rw [advanced] at backs
    exact backs

theorem Vouches.step (vouches : Vouches runtime start events (run (step runtime) start events))
    (event : CoordinatorEvent) :
    Vouches runtime start (events ++ [event])
      ((run (step runtime) start events).step runtime event) := by
  have answered (thread : Nat) (message : PortMutationMessage) (result : MutationResult)
      (given : Passes (FabricCoordinator.step runtime) (Answered runtime thread message result)
        start (events ++ [event]))
      (committed : result.outcome.code.isCommitted = true) :
      Remembered runtime start (events ++ [event]) message.port message.authority.attempt := by
    rcases passes_concat.mp given with before | now
    · exact (vouches.answered thread message result before committed).concat event
    · exact (vouches.answers now committed).concat event
  rcases step_fabric runtime (run (FabricCoordinator.step runtime) start events) event with
    same | ⟨action, stepped, _⟩
  · refine ⟨?_, ?_, ?_, answered⟩
    · rw [same]
      exact vouches.sound
    · rw [same]
      intro thread flight flying
      exact (vouches.flights thread flight flying).imp fun _ _ remembered =>
        remembered.concat event
    · rw [same]
      intro thread flight flying
      exact (vouches.bindings thread flight flying).imp fun _ _ remembered =>
        remembered.concat event
  · refine ⟨?_, ?_, ?_, answered⟩
    · rw [stepped]
      cases action with
      | act action => exact vouches.sound.step action
      | bind binder request =>
          rw [BindingSystem.step_bind]
          exact vouches.sound
      | advance mover answers =>
          intro thread flight flying
          rw [BindingSystem.advance_flights] at flying
          exact vouches.sound thread flight flying
    · rw [stepped]
      intro thread flight flying
      exact vouches.flights_step stepped flying
    · rw [stepped]
      intro thread flight flying
      exact vouches.bindings_step stepped flying

end Histories

/--
In any interleaving of sessions, mutations, bindings and host operations: when a
session answers a mutation message with OK or IDEMPOTENT, the attempt of that
message was the last mutation of its port in some state of the run.
-/
theorem acknowledged_is_recorded (runtime : Runtime) (impl : EngineImpl)
    (events : List CoordinatorEvent) {thread : Nat} {conversation : SessionThread}
    (there : (run (step runtime) (initial impl) events).threads thread = some conversation)
    {round : Served} (served : round ∈ conversation.served) {message : PortMutationMessage}
    (called : round.calls = [.mutation message]) :
    ∃ (frame : Frame) (result : MutationResult), decodeMutation frame.payload = .ok message ∧
      round.sent = sendEncoded .mutationAck frame.sequence (encodeOutcome result.outcome) ∧
      (result.outcome.code = .ok ∨ result.outcome.code = .idempotent →
        Remembered runtime (initial impl) events message.port message.authority.attempt) := by
  have vouches : Vouches runtime (initial impl) events
      (run (step runtime) (initial impl) events) := by
    refine Runs.history (Vouches runtime (initial impl)) ?_ ?_ events
    · refine ⟨?_, ?_, ?_, ?_⟩
      · intro thread flight flying
        cases flying
      · intro thread flight flying
        cases flying
      · intro thread flight flying
        cases flying
      · intro thread message result given
        obtain ⟨front, label, back, same, _⟩ := given
        cases front <;> cases same
    · intro labels label held
      exact held.step label
  have attended := (recounts_run runtime impl events).attended thread conversation there
  obtain ⟨frame, result, _, decoded, sent, answered⟩ :=
    attended.backed round served message called
  refine ⟨frame, result, decoded, sent, ?_⟩
  intro committed
  refine vouches.answered thread message result answered ?_
  rcases committed with same | same <;> rw [same] <;> rfl

end FabricCoordinator

theorem toOption_eq_some {α : Type} {read : Except Outcome α} {value : α} :
    read.toOption = some value ↔ read = .ok value := by
  cases read <;> simp [Except.toOption]

/-- A frame that was sent for an outcome tells its code. -/
theorem sent_outcome_code {outcome : Outcome} {type : MessageType} {sequence : UInt64}
    {bytes : Text} {frame : Frame} {received : ReceivedOutcome} (legal : type.isValid = true)
    (sent : sendEncoded type sequence (encodeOutcome outcome) = [bytes])
    (decoded : decodeFrame bytes = .ok frame) (read : decodeOutcome frame.payload = .ok received) :
    received.code = UInt8.ofNat outcome.code.byte := by
  cases encoded : encodeOutcome outcome with
  | error refusal =>
      rw [encoded] at sent
      cases sent
  | ok payload =>
      have sendable : Frame.Sendable { type, sequence, payload } :=
        ⟨legal, (encodeOutcome_eq_ok.mp encoded).2⟩
      rw [encoded, sendEncoded, sendFrame, encodeFrame_eq_ok.mpr ⟨sendable, rfl⟩] at sent
      cases sent
      rw [decodeFrame_eq_ok.mpr ⟨sendable, rfl⟩] at decoded
      cases decoded
      rw [decodeOutcome_of_encoded encoded read, outcome.normalised_code]

namespace TwoSessions

/-- The one frame that was sent in the round says OK. -/
def acknowledges (round : Served) : Bool :=
  round.sent.length = 1 && round.sent.any fun bytes =>
    (decodeFrame bytes).toOption.any fun frame =>
      (decodeOutcome frame.payload).toOption.any fun outcome => outcome.code = 0

set_option maxRecDepth 100000 in
theorem claim_answered :
    ((run (FabricCoordinator.step Fixture.runtime) (.initial fresh) events).threads 0).any
      (fun conversation => conversation.served.getLast?.any fun round =>
        decide (round.calls = [.mutation (message 9 "claim-1")]) && acknowledges round) = true := by
  decide +kernel

theorem acknowledges_ok {round : Served} {outcome : Outcome} {sequence : UInt64}
    (answers : acknowledges round = true)
    (sent : round.sent = sendEncoded .mutationAck sequence (encodeOutcome outcome)) :
    outcome.code = .ok := by
  simp only [acknowledges, Bool.and_eq_true, decide_eq_true_eq, List.any_eq_true,
    Option.any_eq_true] at answers
  obtain ⟨single, bytes, member, frame, decoded, received, read, code⟩ := answers
  obtain ⟨only, alone⟩ := List.length_eq_one_iff.mp single
  rw [alone, List.mem_singleton] at member
  rw [alone, ← member] at sent
  have told := sent_outcome_code rfl sent.symm (toOption_eq_some.mp decoded)
    (toOption_eq_some.mp read)
  rw [code] at told
  cases same : outcome.code <;> rw [same] at told <;> first | rfl | exact absurd told (by decide)

end TwoSessions

/-- The claim of the first session is acknowledged with OK, and its attempt was recorded. -/
theorem claim_acknowledged : ∃ (frame : Frame) (result : MutationResult),
    decodeMutation frame.payload = .ok (TwoSessions.message 9 "claim-1") ∧
      result.outcome.code = .ok ∧
      FabricCoordinator.Remembered Fixture.runtime (.initial TwoSessions.fresh)
        TwoSessions.events TwoSessions.port "claim-1" := by
  have answered := TwoSessions.claim_answered
  rw [Option.any_eq_true] at answered
  obtain ⟨conversation, there, rounds⟩ := answered
  simp only [Bool.and_eq_true, Option.any_eq_true, decide_eq_true_eq] at rounds
  obtain ⟨round, last, called, acknowledges⟩ := rounds
  obtain ⟨frame, result, decoded, sent, remembered⟩ :=
    FabricCoordinator.acknowledged_is_recorded Fixture.runtime TwoSessions.fresh
      TwoSessions.events there (List.mem_of_getLast? last) called
  have code := TwoSessions.acknowledges_ok acknowledges sent
  exact ⟨frame, result, decoded, code, remembered (.inl code)⟩

end PortFabric
