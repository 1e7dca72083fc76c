import PortFabric.Engine.BindingInterleaving
import PortFabric.Protocol.Dispatch
import PortFabric.Protocol.Session

/-!
# Coordinator

One engine behind many sessions. Every session has a thread of its own, which
handles one frame at a time; the mutations and bindings it enters advance one
critical section at a time, between the steps of the other sessions and of the
process that hosts the engine.
-/

set_option autoImplicit false

namespace PortFabric

namespace EngineService

/-- `on_hello`; the handshake claims no epoch the coordinator has not reached. -/
def onHello (impl : EngineImpl) (message : HelloMessage) : Outcome × CoordinatorEpoch :=
  if !message.publisher.valid || !message.boot.valid then
    (.failure .malformedRequest
      "the opening message does not identify the connecting process", impl.epoch)
  else if message.epoch.valid ∧ impl.epoch < message.epoch then
    (.failure .staleCoordinatorEpoch
      "the client claims a coordinator epoch newer than the coordinator", impl.epoch)
  else
    (.success "session accepted", impl.epoch)

/-- The service in front of this engine, with the answers of its longer calls. -/
def answering (impl : EngineImpl) (result : MutationResult) (response : QueryResponse Outcome) :
    CoordinatorService where
  onHello := onHello impl
  onRegisterPublisher message :=
    (PortFabricEngine.registerPublisher impl message.publisher message.boot message.epoch).2
  onMutation _ := result
  onQuery _ := response
  onFence message := (PortFabricEngine.fencePublisher impl message.publisher message.boot).2

end EngineService

/-- What the thread of a session is doing. -/
inductive Errand where
  /-- It waits for a frame. -/
  | idle
  /-- The mutation the frame asks for is in flight. -/
  | mutation (frame : Frame) (message : PortMutationMessage) (mutation : Mutation)
  /-- The binding the frame asks for is in flight. -/
  | binding (frame : Frame) (message : PortMutationMessage) (request : PortBindingRequest)
  /-- The mutation had no defined behaviour. -/
  | undefined (frame : Frame)

/-- The frame the thread has not answered yet. -/
def Errand.frame? : Errand → Option Frame
  | idle => none
  | mutation frame _ _ => some frame
  | binding frame _ _ => some frame
  | undefined frame => some frame

structure SessionThread where
  session : Session := {}
  errand : Errand := .idle
  /-- The rounds that are over. -/
  served : List Served := []

namespace SessionThread

variable (conversation : SessionThread)

/-- The round ends with this answer of the service. -/
def conclude (reception : Reception) : SessionThread :=
  let round := conversation.session.step reception
  { session := round.session, served := conversation.served ++ [round] }

/-- The entry point a frame leads to, which no answer of the service decides. -/
def asked (impl : EngineImpl) (frame : Frame) : Option ServiceCall :=
  (conversation.session.step
    ⟨EngineService.answering impl { outcome := {} } { outcome := {} }, .ok frame⟩).calls.head?

end SessionThread

/-- One engine and the sessions in front of it. -/
structure FabricCoordinator where
  fabric : BindingSystem
  threads : Nat → Option SessionThread := fun _ => none

inductive CoordinatorEvent where
  /-- A connection is accepted and gets a thread. -/
  | accept (thread : Nat)
  /-- The thread receives; `response` is what a query reads while it is handled. -/
  | receive (thread : Nat) (received : Except ReceiveFailure Frame)
      (response : QueryResponse Outcome)
  /-- The mutation or the binding of the thread takes its next critical section. -/
  | advance (thread : Nat) (answers : MutationAnswers)
  /-- A step of the process that hosts the engine, on threads of its own. -/
  | host (action : BindingAction)

def BindingFlight.request : BindingFlight → PortBindingRequest
  | probe request => request
  | insert request _ => request
  | device request _ => request
  | persist request _ => request

def BindingAction.thread? : BindingAction → Option Nat
  | .act action => action.thread?
  | .bind thread _ => some thread
  | .advance thread _ => some thread

namespace FabricCoordinator

abbrev engine (state : FabricCoordinator) : EngineImpl := state.fabric.engine

/-- A coordinator before its first connection. -/
def initial (impl : EngineImpl) : FabricCoordinator where
  fabric := { system := { engine := impl } }

def withThread (state : FabricCoordinator) (thread : Nat) (conversation : SessionThread) :
    FabricCoordinator :=
  { state with
    threads := fun other => if other = thread then some conversation else state.threads other }

/-- The engine takes a step on behalf of a session or of the host. -/
def act (runtime : Runtime) (state : FabricCoordinator) (action : BindingAction) :
    FabricCoordinator :=
  { state with fabric := state.fabric.step runtime action }

/-- The thread is done with the frame. -/
def answer (state : FabricCoordinator) (thread : Nat) (conversation : SessionThread)
    (impl : EngineImpl) (frame : Frame) (result : MutationResult)
    (response : QueryResponse Outcome) : FabricCoordinator :=
  state.withThread thread
    (conversation.conclude ⟨EngineService.answering impl result response, .ok frame⟩)

/-- `on_mutation`: the message is refused, or its mutation or binding takes off. -/
def dispatch (runtime : Runtime) (state : FabricCoordinator) (thread : Nat)
    (conversation : SessionThread) (frame : Frame) (message : PortMutationMessage) :
    FabricCoordinator :=
  let refuse (result : MutationResult) : FabricCoordinator :=
    state.answer thread conversation state.engine frame result { outcome := {} }
  match message.request with
  | .error detail => refuse (.rejected .malformedRequest detail)
  | .ok (.bind request) =>
      match admitBinding state.engine request with
      | .error result => refuse result
      | .ok () =>
          (state.act runtime (.bind thread request)).withThread thread
            { conversation with errand := .binding frame message request }
  | .ok (.mutate mutation) =>
      match admitMutation state.engine mutation with
      | .error (.result result) => refuse result
      | .error .undefinedBehaviour =>
          state.withThread thread { conversation with errand := .undefined frame }
      | .ok () =>
          (state.act runtime (.act (.start thread mutation))).withThread thread
            { conversation with errand := .mutation frame message mutation }

/-- A frame arrives at a waiting thread. -/
def handle (runtime : Runtime) (state : FabricCoordinator) (thread : Nat)
    (conversation : SessionThread) (frame : Frame) (response : QueryResponse Outcome) :
    FabricCoordinator :=
  let answered (state : FabricCoordinator) (impl : EngineImpl) : FabricCoordinator :=
    state.answer thread conversation impl frame { outcome := {} } response
  match conversation.asked state.engine frame with
  | some (.mutation message) => state.dispatch runtime thread conversation frame message
  | some (.registerPublisher message) =>
      answered
        (state.act runtime
          (.act (.operate (.registerPublisher message.publisher message.boot message.epoch))))
        state.engine
  | some (.fence message) =>
      answered
        (state.act runtime (.act (.operate (.fencePublisher message.publisher message.boot))))
        state.engine
  | _ => answered state state.engine

/-- What a thread does when its mutation has taken a section. -/
def settle (state : FabricCoordinator) (thread : Nat) (conversation : SessionThread)
    (impl : EngineImpl) (frame : Frame) (reply : Reply) : FabricCoordinator :=
  match reply with
  | .result result => state.answer thread conversation impl frame result { outcome := {} }
  | .undefinedBehaviour => state.withThread thread { conversation with errand := .undefined frame }

def step (runtime : Runtime) (state : FabricCoordinator) : CoordinatorEvent → FabricCoordinator
  | .accept thread =>
      match state.threads thread, state.fabric.system.flights thread,
          state.fabric.bindings thread with
      | none, none, none => state.withThread thread {}
      | _, _, _ => state
  | .receive thread received response =>
      match state.threads thread with
      | none => state
      | some conversation =>
          if conversation.session.ended then state else
          match conversation.errand, received with
          | .idle, .ok frame => state.handle runtime thread conversation frame response
          | .idle, .error failure =>
              state.withThread thread
                (conversation.conclude
                  ⟨EngineService.answering state.engine { outcome := {} } response,
                    .error failure⟩)
          | _, _ => state
  | .advance thread answers =>
      match state.threads thread with
      | none => state
      | some conversation =>
          match conversation.errand with
          | .mutation frame _ _ =>
              match state.fabric.system.flights thread with
              | none => state
              | some flight =>
                  let advanced := state.act runtime (.act (.advance thread answers))
                  match (flight.advance runtime answers state.engine).2 with
                  | .ok _ => advanced
                  | .error reply =>
                      advanced.settle thread conversation advanced.engine frame reply
          | .binding frame _ _ =>
              match state.fabric.bindings thread with
              | none => state
              | some flight =>
                  let advanced := state.act runtime (.advance thread answers)
                  match (flight.advance runtime answers state.engine).2 with
                  | .ok _ => advanced
                  | .error result =>
                      advanced.settle thread conversation advanced.engine frame (.result result)
          | _ => state
  | .host action =>
      if ∃ thread ∈ action.thread?, (state.threads thread).isSome then state
      else state.act runtime action

end FabricCoordinator

end PortFabric
