import PortFabric.Engine.BindingProperties
import PortFabric.Protocol.Coordinator

/-!
# Properties of the coordinator

What one step of the coordinator can do, and that a thread waits for exactly the
mutation or the binding it has in flight.
-/

set_option autoImplicit false

namespace PortFabric

/-- The frame is a mutation message that the session lets through. -/
structure Session.Asks (session : Session) (frame : Frame) (message : PortMutationMessage) :
    Prop where
  live : session.ended = false
  opened : session.helloSeen = true
  type : frame.type = .mutation
  decoded : decodeMutation frame.payload = .ok message

section Asking

variable {session : Session} {service : CoordinatorService} {frame : Frame}
  {message : PortMutationMessage}

theorem Session.Asks.step (asks : session.Asks frame message) :
    session.step ⟨service, .ok frame⟩ =
      { session := { session with sequence := session.sequence + 1 }
        calls := [.mutation message]
        sent := sendEncoded .mutationAck frame.sequence
          (encodeOutcome (service.onMutation message).outcome) } := by
  simp only [Session.step, Session.handle, asks.type, Session.serveMutation, Session.afterHello,
    asks.opened, asks.decoded, Bool.not_true, Bool.false_eq_true, if_false]

/-- Only a mutation message of an open session leads to the mutation entry point. -/
theorem Session.asks_of_called (live : session.ended = false)
    (called : (session.step ⟨service, .ok frame⟩).calls.head? = some (.mutation message)) :
    session.Asks frame message := by
  cases type : frame.type with
  | mutation =>
      simp only [Session.step, Session.handle, type, Session.serveMutation, Session.afterHello]
        at called
      cases opened : session.helloSeen with
      | false => simp [opened, Session.refuse] at called
      | true =>
          cases decoded : decodeMutation frame.payload with
          | error outcome => simp [opened, decoded, Session.refuse] at called
          | ok found =>
              simp [opened, decoded] at called
              exact ⟨live, opened, type, called ▸ decoded⟩
  | hello =>
      simp only [Session.step, Session.handle, type, Session.serveHello] at called
      split at called <;> simp [Session.refuse] at called
  | registerPublisher =>
      simp only [Session.step, Session.handle, type, Session.serveRegisterPublisher,
        Session.afterHello] at called
      repeat' split at called
      all_goals simp [Session.refuse] at called
  | query =>
      simp only [Session.step, Session.handle, type, Session.serveQuery,
        Session.afterHello] at called
      repeat' split at called
      all_goals simp [Session.refuse] at called
  | fencePublisher =>
      simp only [Session.step, Session.handle, type, Session.serveFencePublisher] at called
      split at called <;> simp at called
  | _ => simp [Session.step, Session.handle, type, Session.refuse] at called

end Asking

namespace FabricCoordinator

/-- The answer to a message whose mutation or binding is not admitted. -/
def Refuses (impl : EngineImpl) (message : PortMutationMessage) (result : MutationResult) : Prop :=
  match message.request with
  | .error detail => result = .rejected .malformedRequest detail
  | .ok (.bind request) => admitBinding impl request = .error result
  | .ok (.mutate mutation) => admitMutation impl mutation = .error (.result result)

/-- A message takes off as an action of the engine, and its thread waits for that. -/
inductive Departs (impl : EngineImpl) (thread : Nat) (session : Session) (frame : Frame) :
    BindingAction → Errand → Prop where
  | mutation {message : PortMutationMessage} {mutation : Mutation}
      (asks : session.Asks frame message) (requested : message.request = .ok (.mutate mutation))
      (admitted : admitMutation impl mutation = .ok ()) :
      Departs impl thread session frame (.act (.start thread mutation))
        (.mutation frame message mutation)
  | binding {message : PortMutationMessage} {request : PortBindingRequest}
      (asks : session.Asks frame message) (requested : message.request = .ok (.bind request))
      (admitted : admitBinding impl request = .ok ()) :
      Departs impl thread session frame (.bind thread request) (.binding frame message request)

/-- The reply a section ends with. -/
def repliesWith {ε α : Type} (report : ε → Reply) : Except ε α → Option Reply
  | .ok _ => none
  | .error refusal => some (report refusal)

/-- What a thread waits for takes a section, and ends with a reply or goes on. -/
inductive Section (runtime : Runtime) (fabric : BindingSystem) (thread : Nat)
    (answers : MutationAnswers) : Errand → BindingAction → Option Reply → Prop where
  | mutation {frame : Frame} {message : PortMutationMessage} {mutation : Mutation}
      {flight : Flight} (flying : fabric.system.flights thread = some flight) :
      Section runtime fabric thread answers (.mutation frame message mutation)
        (.act (.advance thread answers))
        (repliesWith id (flight.advance runtime answers fabric.engine).2)
  | binding {frame : Frame} {message : PortMutationMessage} {request : PortBindingRequest}
      {flight : BindingFlight} (flying : fabric.bindings thread = some flight) :
      Section runtime fabric thread answers (.binding frame message request)
        (.advance thread answers)
        (repliesWith .result (flight.advance runtime answers fabric.engine).2)

/-- The publisher operations that a session performs in one step. -/
def ofPublisher : Operation → Bool
  | .registerPublisher _ _ _ => true
  | .fencePublisher _ _ => true
  | _ => false

/-- What the thread takes from its connection in this step. -/
def takes (thread : Nat) (state : FabricCoordinator) :
    CoordinatorEvent → List (Except ReceiveFailure Frame)
  | .receive receiver received _ =>
      match state.threads receiver with
      | none => []
      | some conversation =>
          if receiver = thread ∧ conversation.session.ended = false ∧
              conversation.errand.frame? = none then [received] else []
  | _ => []

/-- Everything that one step of the coordinator can do. -/
inductive Move (runtime : Runtime) (state : FabricCoordinator) :
    CoordinatorEvent → FabricCoordinator → Prop where
  | ignored {event : CoordinatorEvent} (untaken : ∀ thread, state.takes thread event = []) :
      Move runtime state event state
  | accepted {thread : Nat} (unused : state.threads thread = none)
      (grounded : state.fabric.system.flights thread = none)
      (unbound : state.fabric.bindings thread = none) :
      Move runtime state (.accept thread) (state.withThread thread {})
  | round {thread : Nat} {conversation : SessionThread} {response : QueryResponse Outcome}
      (action : Option BindingAction) (reception : Reception)
      (there : state.threads thread = some conversation)
      (live : conversation.session.ended = false) (idle : conversation.errand = .idle)
      (publisher : ∀ given, action = some given → ∃ operation, given = .act (.operate operation) ∧
        ofPublisher operation = true)
      (refused : ∀ frame message, reception.received = .ok frame →
        conversation.session.Asks frame message →
        Refuses state.engine message (reception.service.onMutation message)) :
      Move runtime state (.receive thread reception.received response)
        ((action.elim state (state.act runtime)).withThread thread
          (conversation.conclude reception))
  | departed {thread : Nat} {conversation : SessionThread} {frame : Frame}
      {response : QueryResponse Outcome} {action : BindingAction} {errand : Errand}
      (there : state.threads thread = some conversation) (idle : conversation.errand = .idle)
      (departs : Departs state.engine thread conversation.session frame action errand) :
      Move runtime state (.receive thread (.ok frame) response)
        ((state.act runtime action).withThread thread { conversation with errand })
  | moved {thread : Nat} {conversation : SessionThread} {answers : MutationAnswers}
      {action : BindingAction} (there : state.threads thread = some conversation)
      (moves : Section runtime state.fabric thread answers conversation.errand action none) :
      Move runtime state (.advance thread answers) (state.act runtime action)
  | landed {thread : Nat} {conversation : SessionThread} {answers : MutationAnswers}
      {action : BindingAction} {result : MutationResult} {frame : Frame}
      {service : CoordinatorService} (there : state.threads thread = some conversation)
      (moves : Section runtime state.fabric thread answers conversation.errand action
        (some (.result result)))
      (asked : conversation.errand.frame? = some frame)
      (answered : ∀ message, service.onMutation message = result) :
      Move runtime state (.advance thread answers)
        ((state.act runtime action).withThread thread
          (conversation.conclude ⟨service, .ok frame⟩))
  | crashed {thread : Nat} {conversation : SessionThread} {answers : MutationAnswers}
      {action : BindingAction} {frame : Frame} (there : state.threads thread = some conversation)
      (moves : Section runtime state.fabric thread answers conversation.errand action
        (some .undefinedBehaviour))
      (asked : conversation.errand.frame? = some frame) :
      Move runtime state (.advance thread answers)
        ((state.act runtime action).withThread thread
          { conversation with errand := .undefined frame })
  | hosted {action : BindingAction}
      (apart : ∀ thread, action.thread? = some thread → state.threads thread = none) :
      Move runtime state (.host action) (state.act runtime action)

section Moves

variable {runtime : Runtime} {state : FabricCoordinator} {thread : Nat}
  {conversation : SessionThread}

theorem dispatch_moves {frame : Frame} {message : PortMutationMessage}
    {response : QueryResponse Outcome} (there : state.threads thread = some conversation)
    (idle : conversation.errand = .idle) (asks : conversation.session.Asks frame message) :
    Move runtime state (.receive thread (.ok frame) response)
      (state.dispatch runtime thread conversation frame message) := by
  have refuse {result : MutationResult} (refuses : Refuses state.engine message result) :
      Move runtime state (.receive thread (.ok frame) response)
        (state.answer thread conversation state.engine frame result { outcome := {} }) := by
    refine .round none
      ⟨EngineService.answering state.engine result { outcome := {} }, .ok frame⟩ there asks.live
      idle (fun _ given => by cases given) ?_
    intro found other same asked
    cases same
    cases asks.decoded.symm.trans asked.decoded
    exact refuses
  unfold dispatch
  dsimp only
  split
  · next detail requested => exact refuse (by rw [Refuses, requested])
  · next request requested =>
      split
      · next result refused => exact refuse (by rw [Refuses, requested]; exact refused)
      · next admitted => exact .departed there idle (.binding asks requested admitted)
  · next mutation requested =>
      split
      · next result refused => exact refuse (by rw [Refuses, requested]; exact refused)
      · next refused =>
          unfold admitMutation at refused
          repeat' split at refused
          all_goals cases refused
      · next admitted => exact .departed there idle (.mutation asks requested admitted)

/-- What leads elsewhere is no mutation message. -/
theorem asked_of_asks {impl : EngineImpl} {frame : Frame} {message : PortMutationMessage}
    (asks : conversation.session.Asks frame message) :
    conversation.asked impl frame = some (.mutation message) := by
  rw [SessionThread.asked, asks.step]
  rfl

theorem handle_moves {frame : Frame} {response : QueryResponse Outcome}
    (there : state.threads thread = some conversation)
    (live : conversation.session.ended = false) (idle : conversation.errand = .idle) :
    Move runtime state (.receive thread (.ok frame) response)
      (state.handle runtime thread conversation frame response) := by
  have elsewhere (action : Option BindingAction)
      (publisher : ∀ given, action = some given →
        ∃ operation, given = .act (.operate operation) ∧ ofPublisher operation = true)
      (other : ∀ message, conversation.asked state.engine frame ≠ some (.mutation message)) :
      Move runtime state (.receive thread (.ok frame) response)
        ((action.elim state (state.act runtime)).answer thread conversation state.engine frame
          { outcome := {} } response) := by
    refine .round action
      ⟨EngineService.answering state.engine { outcome := {} } response, .ok frame⟩ there live idle
      publisher ?_
    intro found message same asks
    cases same
    exact absurd (asked_of_asks asks) (other message)
  unfold handle
  dsimp only
  split
  · next message called =>
      exact dispatch_moves there idle (Session.asks_of_called live called)
  · next message called =>
      refine elsewhere (some _) (fun _ given => ⟨_, (Option.some.inj given).symm, rfl⟩) ?_
      intro other same
      rw [called] at same
      cases same
  · next message called =>
      refine elsewhere (some _) (fun _ given => ⟨_, (Option.some.inj given).symm, rfl⟩) ?_
      intro other same
      rw [called] at same
      cases same
  · next mutation _ _ =>
      exact elsewhere none (fun _ given => by cases given) mutation

theorem takes_receive {receiver : Nat} {received : Except ReceiveFailure Frame}
    {response : QueryResponse Outcome} (there : state.threads receiver = some conversation) :
    state.takes thread (.receive receiver received response) =
      if receiver = thread ∧ conversation.session.ended = false ∧
        conversation.errand.frame? = none then [received] else [] := by
  simp only [takes, there]

theorem receive_moves {received : Except ReceiveFailure Frame} {response : QueryResponse Outcome} :
    Move runtime state (.receive thread received response)
      (state.step runtime (.receive thread received response)) := by
  cases there : state.threads thread with
  | none =>
      simp only [step, there]
      exact .ignored fun other => by simp only [takes, there]
  | some conversation =>
      by_cases live : conversation.session.ended = false
      · cases errand : conversation.errand with
        | idle =>
            simp only [step, there, live, errand]
            cases received with
            | ok frame => exact handle_moves there live errand
            | error failure =>
                exact .round none ⟨_, .error failure⟩ there live errand
                  (fun _ given => by cases given) (fun _ _ given => by cases given)
        | mutation | binding | undefined =>
            simp only [step, there, live, errand]
            refine .ignored fun other => ?_
            rw [takes_receive there]
            simp [errand, Errand.frame?]
      · simp only [step, there, live]
        refine .ignored fun other => ?_
        rw [takes_receive there]
        simp [live]

theorem settle_moves {answers : MutationAnswers} {action : BindingAction} {frame : Frame}
    {reply : Reply} (there : state.threads thread = some conversation)
    (moves : Section runtime state.fabric thread answers conversation.errand action (some reply))
    (asked : conversation.errand.frame? = some frame) :
    Move runtime state (.advance thread answers)
      ((state.act runtime action).settle thread conversation (state.act runtime action).engine
        frame reply) := by
  cases reply with
  | result result => exact .landed there moves asked fun _ => rfl
  | undefinedBehaviour => exact .crashed there moves asked

theorem advance_moves {answers : MutationAnswers} :
    Move runtime state (.advance thread answers)
      (state.step runtime (.advance thread answers)) := by
  have still : Move runtime state (.advance thread answers) state := .ignored fun _ => rfl
  cases there : state.threads thread with
  | none =>
      simp only [step, there]
      exact still
  | some conversation =>
      cases errand : conversation.errand with
      | idle | undefined =>
          simp only [step, there, errand]
          exact still
      | mutation frame message mutation =>
          cases flying : state.fabric.system.flights thread with
          | none =>
              simp only [step, there, errand, flying]
              exact still
          | some flight =>
              have moves : Section runtime state.fabric thread answers conversation.errand
                  (.act (.advance thread answers))
                  (repliesWith id (flight.advance runtime answers state.engine).2) := by
                rw [errand]
                exact .mutation flying
              simp only [step, there, errand, flying]
              split
              · next advanced =>
                  rw [advanced] at moves
                  exact .moved there moves
              · next reply advanced =>
                  rw [advanced] at moves
                  exact settle_moves there moves (by rw [errand]; rfl)
      | binding frame message request =>
          cases flying : state.fabric.bindings thread with
          | none =>
              simp only [step, there, errand, flying]
              exact still
          | some flight =>
              have moves : Section runtime state.fabric thread answers conversation.errand
                  (.advance thread answers)
                  (repliesWith .result (flight.advance runtime answers state.engine).2) := by
                rw [errand]
                exact .binding flying
              simp only [step, there, errand, flying]
              split
              · next advanced =>
                  rw [advanced] at moves
                  exact .moved there moves
              · next result advanced =>
                  rw [advanced] at moves
                  exact settle_moves there moves (by rw [errand]; rfl)

/-- Every step is one of the moves. -/
theorem step_moves (runtime : Runtime) (state : FabricCoordinator) (event : CoordinatorEvent) :
    Move runtime state event (state.step runtime event) := by
  cases event with
  | accept thread =>
      cases there : state.threads thread with
      | some conversation =>
          simp only [step, there]
          exact .ignored fun _ => rfl
      | none =>
          cases flying : state.fabric.system.flights thread with
          | some flight =>
              simp only [step, there, flying]
              exact .ignored fun _ => rfl
          | none =>
              cases binding : state.fabric.bindings thread with
              | some flight =>
                  simp only [step, there, flying, binding]
                  exact .ignored fun _ => rfl
              | none =>
                  simp only [step, there, flying, binding]
                  exact .accepted there flying binding
  | receive thread received response => exact receive_moves
  | advance thread answers => exact advance_moves
  | host action =>
      simp only [step]
      split
      · exact .ignored fun _ => rfl
      · next apart =>
          refine .hosted fun thread own => ?_
          cases there : state.threads thread with
          | none => rfl
          | some conversation => exact absurd ⟨thread, own, by rw [there]; rfl⟩ apart

end Moves

end FabricCoordinator

section Flying

variable {runtime : Runtime} {fabric : BindingSystem} {thread : Nat} {answers : MutationAnswers}

variable (runtime fabric) in
theorem BindingSystem.step_apart {action : BindingAction}
    (apart : action.thread? ≠ some thread) :
    (fabric.step runtime action).system.flights thread = fabric.system.flights thread ∧
      (fabric.step runtime action).bindings thread = fabric.bindings thread := by
  cases action with
  | act action => exact ⟨System.step_flights_of_ne apart, rfl⟩
  | bind binder request =>
      have other : thread ≠ binder := fun same => apart (congrArg some same.symm)
      refine ⟨by rw [BindingSystem.step_bind], ?_⟩
      simp only [BindingSystem.step]
      split
      · simp only [BindingSystem.withBinding, other, if_false]
      · rfl
  | advance mover answers =>
      have other : thread ≠ mover := fun same => apart (congrArg some same.symm)
      refine ⟨by rw [BindingSystem.advance_flights], ?_⟩
      simp only [BindingSystem.step]
      split
      · rfl
      · simp only [BindingSystem.withBinding, other, if_false]

/-- A binding after a step is one the step leaves alone, one it starts or one it moves. -/
theorem BindingSystem.step_bindings {action : BindingAction} {flight : BindingFlight}
    (flying : (fabric.step runtime action).bindings thread = some flight) :
    fabric.bindings thread = some flight ∨
      (∃ request, action = .bind thread request ∧ flight = .probe request) ∨
      ∃ answers before after, action = .advance thread answers ∧
        fabric.bindings thread = some before ∧
        before.advance runtime answers fabric.engine = (after, .ok flight) := by
  cases action with
  | act action => exact .inl flying
  | bind binder request =>
      simp only [step] at flying
      split at flying
      · simp only [withBinding] at flying
        split at flying
        · next same =>
            cases flying
            rw [same]
            exact .inr (.inl ⟨request, rfl, rfl⟩)
        · exact .inl flying
      · exact .inl flying
  | advance mover answers =>
      cases found : fabric.bindings mover with
      | none =>
          simp only [step, found] at flying
          exact .inl flying
      | some before =>
          simp only [step, found, withBinding] at flying
          split at flying
          · next same =>
              subst same
              refine .inr (.inr ⟨answers, before, _, rfl, found, Prod.ext rfl ?_⟩)
              cases advanced : (before.advance runtime answers fabric.engine).2 with
              | error result =>
                  rw [advanced] at flying
                  cases flying
              | ok next =>
                  rw [advanced] at flying
                  cases flying
                  rfl
          · exact .inl flying

theorem BindingFlight.advance_request {flight next : BindingFlight} {impl after : EngineImpl}
    (advanced : flight.advance runtime answers impl = (after, .ok next)) :
    next.request = flight.request := by
  cases flight with
  | probe request =>
      cases advanced
      rfl
  | insert request evidence =>
      simp only [advance] at advanced
      split at advanced <;> cases advanced
      rfl
  | device request evidence =>
      simp only [advance] at advanced
      split at advanced <;> cases advanced
      rfl
  | persist request evidence => cases advanced

/-- What the thread waits for is in flight on its own number, and nothing else is. -/
def Errand.Airborne (fabric : BindingSystem) (thread : Nat) (session : Session) : Errand → Prop
  | .mutation frame message entered =>
      session.Asks frame message ∧ message.request = .ok (.mutate entered) ∧
        (∃ flight, fabric.system.flights thread = some flight ∧ flight.mutation = entered) ∧
        fabric.bindings thread = none
  | .binding frame message request =>
      session.Asks frame message ∧ message.request = .ok (.bind request) ∧
        fabric.system.flights thread = none ∧
        ∃ flight, fabric.bindings thread = some flight ∧ flight.request = request
  | .idle => fabric.system.flights thread = none ∧ fabric.bindings thread = none
  | .undefined _ => fabric.system.flights thread = none ∧ fabric.bindings thread = none

theorem Errand.Airborne.congr {errand : Errand} {session : Session} {after : BindingSystem}
    (airborne : errand.Airborne fabric thread session)
    (flights : after.system.flights thread = fabric.system.flights thread)
    (bindings : after.bindings thread = fabric.bindings thread) :
    errand.Airborne after thread session := by
  cases errand <;> simp only [Airborne, flights, bindings] <;> exact airborne

theorem FabricCoordinator.Section.own {errand : Errand} {action : BindingAction}
    {reply : Option Reply}
    (moves : FabricCoordinator.Section runtime fabric thread answers errand action reply) :
    action.thread? = some thread := by
  cases moves <;> rfl

/-- A section without a reply leaves its mutation or binding in flight. -/
theorem FabricCoordinator.Section.airborne {errand : Errand} {action : BindingAction}
    {session : Session}
    (moves : FabricCoordinator.Section runtime fabric thread answers errand action none)
    (airborne : errand.Airborne fabric thread session) :
    errand.Airborne (fabric.step runtime action) thread session := by
  generalize replied : (none : Option Reply) = reply at moves
  cases moves with
  | @mutation frame message mutation flight flying =>
      obtain ⟨asks, requested, ⟨_, found, same⟩, unbound⟩ := airborne
      cases found.symm.trans flying
      cases advanced : flight.advance runtime answers fabric.engine with
      | mk after ended =>
      cases ended with
      | error reply =>
          rw [advanced] at replied
          cases replied
      | ok next =>
          refine ⟨asks, requested, ⟨next, ?_, ?_⟩, unbound⟩
          · simp only [BindingSystem.step, System.step, flying, advanced, System.withFlight,
              if_true]
            rfl
          · exact (Flight.advance_next advanced).1.trans same
  | @binding frame message request flight flying =>
      obtain ⟨asks, requested, grounded, _, found, same⟩ := airborne
      cases found.symm.trans flying
      cases advanced : flight.advance runtime answers fabric.engine with
      | mk after ended =>
      cases ended with
      | error result =>
          rw [advanced] at replied
          cases replied
      | ok next =>
          refine ⟨asks, requested, ?_, next, ?_, ?_⟩
          · rw [BindingSystem.advance_flights]
            exact grounded
          · simp only [BindingSystem.step, flying, advanced, BindingSystem.withBinding, if_true]
            rfl
          · exact (BindingFlight.advance_request advanced).trans same

/-- With the reply nothing of the thread is in flight. -/
theorem FabricCoordinator.Section.grounded {errand : Errand} {action : BindingAction}
    {session : Session} {reply : Reply}
    (moves : FabricCoordinator.Section runtime fabric thread answers errand action (some reply))
    (airborne : errand.Airborne fabric thread session) :
    (fabric.step runtime action).system.flights thread = none ∧
      (fabric.step runtime action).bindings thread = none := by
  generalize replied : some reply = replies at moves
  cases moves with
  | @mutation frame message mutation flight flying =>
      refine ⟨?_, airborne.2.2.2⟩
      cases advanced : flight.advance runtime answers fabric.engine with
      | mk after ended =>
      cases ended with
      | ok next =>
          rw [advanced] at replied
          cases replied
      | error reply =>
          simp only [BindingSystem.step, System.step, flying, advanced, System.withFlight, if_true]
          rfl
  | @binding frame message request flight flying =>
      refine ⟨?_, ?_⟩
      · rw [BindingSystem.advance_flights]
        exact airborne.2.2.1
      · cases advanced : flight.advance runtime answers fabric.engine with
        | mk after ended =>
        cases ended with
        | ok next =>
            rw [advanced] at replied
            cases replied
        | error result =>
            simp only [BindingSystem.step, flying, advanced, BindingSystem.withBinding, if_true]
            rfl

/-- A message that takes off is in flight on the number of its thread. -/
theorem FabricCoordinator.Departs.airborne {session : Session} {frame : Frame}
    {action : BindingAction} {errand : Errand}
    (departs : FabricCoordinator.Departs fabric.engine thread session frame action errand)
    (grounded : fabric.system.flights thread = none) (unbound : fabric.bindings thread = none) :
    errand.Airborne (fabric.step runtime action) thread session := by
  cases departs with
  | @mutation message mutation asks requested admitted =>
      refine ⟨asks, requested, ⟨.authority mutation, ?_, rfl⟩, unbound⟩
      have admits : admitMutation fabric.system.engine mutation = .ok () := admitted
      simp only [BindingSystem.step, System.step, grounded, admits, System.withFlight, if_true]
  | @binding message request asks requested admitted =>
      have admits : admitBinding fabric.system.engine request = .ok () := admitted
      refine ⟨asks, requested, ?_, .probe request, ?_, rfl⟩
      · rw [BindingSystem.step_bind]
        exact grounded
      · simp only [BindingSystem.step, unbound, BindingSystem.engine, admits,
          BindingSystem.withBinding, if_true]

theorem FabricCoordinator.Departs.own {session : Session} {frame : Frame}
    {impl : EngineImpl} {action : BindingAction} {errand : Errand}
    (departs : FabricCoordinator.Departs impl thread session frame action errand) :
    action.thread? = some thread := by
  cases departs <;> rfl

end Flying

namespace FabricCoordinator

/-- Every session thread waits for exactly what is in flight on its number. -/
def Coherent (state : FabricCoordinator) : Prop :=
  ∀ thread conversation, state.threads thread = some conversation →
    conversation.errand.Airborne state.fabric thread conversation.session

theorem threads_withThread {state : FabricCoordinator} {thread other : Nat}
    {conversation : SessionThread} :
    (state.withThread thread conversation).threads other =
      if other = thread then some conversation else state.threads other := rfl

/-- What a session makes the engine do. -/
def ofPeer : BindingAction → Bool
  | .act (.operate operation) => ofPublisher operation
  | _ => true

theorem Section.ofPeer {runtime : Runtime} {fabric : BindingSystem} {thread : Nat}
    {answers : MutationAnswers} {errand : Errand} {action : BindingAction} {reply : Option Reply}
    (moves : Section runtime fabric thread answers errand action reply) :
    FabricCoordinator.ofPeer action = true := by
  cases moves <;> rfl

/-- The engine steps on behalf of a session, or of the host, or not at all. -/
theorem step_fabric (runtime : Runtime) (state : FabricCoordinator) (event : CoordinatorEvent) :
    (state.step runtime event).fabric = state.fabric ∨
      ∃ action, (state.step runtime event).fabric = state.fabric.step runtime action ∧
        (ofPeer action = true ∨ event = .host action) := by
  generalize stepped : state.step runtime event = after
  have moves := step_moves runtime state event
  rw [stepped] at moves
  cases moves with
  | ignored _ => exact .inl rfl
  | accepted _ _ _ => exact .inl rfl
  | round action reception there live idle publisher refused =>
      cases action with
      | none => exact .inl rfl
      | some given =>
          obtain ⟨operation, rfl, own⟩ := publisher given rfl
          exact .inr ⟨.act (.operate operation), rfl, .inl own⟩
  | departed there idle departs => exact .inr ⟨_, rfl, .inl (by cases departs <;> rfl)⟩
  | moved there moves => exact .inr ⟨_, rfl, .inl moves.ofPeer⟩
  | landed there moves asked answered => exact .inr ⟨_, rfl, .inl moves.ofPeer⟩
  | crashed there moves asked => exact .inr ⟨_, rfl, .inl moves.ofPeer⟩
  | hosted apart => exact .inr ⟨_, rfl, .inr rfl⟩

section Coherence

variable {runtime : Runtime} {state : FabricCoordinator}

theorem coherent_initial (impl : EngineImpl) : (initial impl).Coherent := by
  intro thread conversation there
  cases there

/-- A step of one thread leaves the others as they are. -/
theorem Coherent.withThread (coherent : state.Coherent) (runtime : Runtime)
    (action : Option BindingAction) {thread : Nat} {conversation : SessionThread}
    (apart : ∀ given other, action = some given → other ≠ thread →
      given.thread? ≠ some other)
    (airborne : conversation.errand.Airborne (action.elim state (state.act runtime)).fabric thread
      conversation.session) :
    ((action.elim state (state.act runtime)).withThread thread conversation).Coherent := by
  intro other found there
  rw [threads_withThread] at there
  split at there
  · next same =>
      cases there
      rw [same]
      exact airborne
  · next different =>
      cases action with
      | none => exact coherent other found there
      | some given =>
          obtain ⟨flights, bindings⟩ := BindingSystem.step_apart runtime state.fabric
            (apart given other rfl different)
          exact (coherent other found there).congr flights bindings

theorem Coherent.step (coherent : state.Coherent) (event : CoordinatorEvent) :
    (state.step runtime event).Coherent := by
  have alone {thread : Nat} {action : BindingAction} (own : action.thread? = some thread) :
      ∀ given other, some action = some given → other ≠ thread → given.thread? ≠ some other := by
    intro given other same different
    cases same
    rw [own]
    exact fun again => different (Option.some.inj again).symm
  generalize moved : state.step runtime event = after
  have moves := step_moves runtime state event
  rw [moved] at moves
  cases moves with
  | ignored _ => exact coherent
  | accepted unused grounded unbound =>
      exact coherent.withThread runtime none (fun _ _ given => by cases given)
        ⟨grounded, unbound⟩
  | round action reception there live idle publisher refused =>
      have still := coherent _ _ there
      rw [idle] at still
      refine coherent.withThread runtime action ?_ ?_
      · intro given other same different
        obtain ⟨operation, rfl, _⟩ := publisher given same
        exact fun own => by cases own
      · cases action with
        | none => exact still
        | some given =>
            obtain ⟨operation, rfl, _⟩ := publisher given rfl
            have apart (thread : Nat) :
                (BindingAction.act (.operate operation)).thread? ≠ some thread :=
              fun own => by cases own
            obtain ⟨flights, bindings⟩ := BindingSystem.step_apart runtime state.fabric (apart _)
            exact still.congr flights bindings
  | departed there idle departs =>
      have still := coherent _ _ there
      rw [idle] at still
      exact coherent.withThread runtime (some _) (alone departs.own)
        (departs.airborne still.1 still.2)
  | @moved thread conversation answers action there moves =>
      intro other found present
      by_cases same : other = thread
      · rw [same] at present ⊢
        cases there.symm.trans present
        exact moves.airborne (coherent _ _ there)
      · obtain ⟨flights, bindings⟩ := BindingSystem.step_apart runtime state.fabric
          (alone moves.own _ other rfl same)
        exact (coherent other found present).congr flights bindings
  | landed there moves asked answered =>
      exact coherent.withThread runtime (some _) (alone moves.own)
        (moves.grounded (coherent _ _ there))
  | crashed there moves asked =>
      exact coherent.withThread runtime (some _) (alone moves.own)
        (moves.grounded (coherent _ _ there))
  | @hosted action apart =>
      intro thread conversation present
      have there : state.threads thread = some conversation := present
      have own : action.thread? ≠ some thread := by
        intro same
        rw [apart thread same] at there
        cases there
      obtain ⟨flights, bindings⟩ := BindingSystem.step_apart runtime state.fabric own
      exact (coherent thread conversation there).congr flights bindings

end Coherence

end FabricCoordinator

end PortFabric
