import PortFabric.Engine.Interleaving

/-!
# Interleaved bindings

`bind_port` one critical section at a time, between the sections of mutations
and the other operations of the engine.
-/

set_option autoImplicit false

namespace PortFabric

/-- A binding in flight, named by the critical section it enters next. -/
inductive BindingFlight where
  | probe (request : PortBindingRequest)
  | insert (request : PortBindingRequest) (evidence : Option CapabilityBinding)
  | device (request : PortBindingRequest) (evidence : Option CapabilityBinding)
  | persist (request : PortBindingRequest) (evidence : Option CapabilityBinding)

namespace BindingFlight

/-- One critical section; the binding ends with a result or goes on. -/
def advance (runtime : Runtime) (answers : MutationAnswers) (impl : EngineImpl) :
    BindingFlight → EngineImpl × Except MutationResult BindingFlight
  | probe request =>
      (impl, .ok (.insert request (probeCapabilities runtime impl request answers.provider)))
  | insert request evidence =>
      match insertBinding runtime impl request evidence with
      | .error result => (impl, .error result)
      | .ok inserted => (inserted, .ok (.device request evidence))
  | device request evidence =>
      match bindDevice runtime impl request (boundRecord request evidence) with
      | (settled, some result) => (settled, .error result)
      | (settled, none) => (settled, .ok (.persist request evidence))
  | persist request evidence =>
      ((impl.persistLockedState runtime answers.store).1,
        .error
          { MutationResult.reporting (.success "canonical port identity bound")
              (boundRecord request evidence) with ownershipGeneration := .null })

/-- Advances a binding that nothing interrupts, at most `fuel` sections. -/
def finish (runtime : Runtime) (answers : MutationAnswers) :
    Nat → EngineImpl → BindingFlight → EngineImpl × Option MutationResult
  | 0, impl, _ => (impl, none)
  | fuel + 1, impl, flight =>
      match flight.advance runtime answers impl with
      | (impl, .error result) => (impl, some result)
      | (impl, .ok flight) => finish runtime answers fuel impl flight

/-- The sections of a binding, run without interruption, are the sequential binding. -/
theorem finish_eq_bindPort (runtime : Runtime) (answers : MutationAnswers) (impl : EngineImpl)
    (request : PortBindingRequest) (admitted : admitBinding impl request = .ok ()) :
    finish runtime answers 4 impl (.probe request) =
      ((PortFabricEngine.bindPort runtime impl request answers).1,
        some (PortFabricEngine.bindPort runtime impl request answers).2) := by
  simp only [finish, advance, PortFabricEngine.bindPort, admitted]
  cases insertBinding runtime impl request
      (probeCapabilities runtime impl request answers.provider) with
  | error result => rfl
  | ok inserted =>
      dsimp only
      cases bindDevice runtime inserted request (boundRecord request
          (probeCapabilities runtime impl request answers.provider)) with
      | mk settled result => cases result <;> rfl

end BindingFlight

/-- The interleaved system with the bindings in flight, which are numbered on their own. -/
structure BindingSystem where
  system : System
  bindings : Nat → Option BindingFlight := fun _ => none

inductive BindingAction where
  /-- A step of the mutations in flight, or another operation. -/
  | act (action : Action)
  | bind (thread : Nat) (request : PortBindingRequest)
  /-- A binding takes its next critical section. -/
  | advance (thread : Nat) (answers : MutationAnswers)

namespace BindingSystem

abbrev engine (state : BindingSystem) : EngineImpl := state.system.engine

def initial (runtime : Runtime) : BindingSystem where
  system := { engine := .initial runtime.config }

def withBinding (state : BindingSystem) (thread : Nat) (flight : Option BindingFlight) :
    BindingSystem :=
  { state with
    bindings := fun other => if other = thread then flight else state.bindings other }

def step (runtime : Runtime) (state : BindingSystem) : BindingAction → BindingSystem
  | .act action => { state with system := state.system.step runtime action }
  | .bind thread request =>
      match state.bindings thread, admitBinding state.engine request with
      | none, .ok () => state.withBinding thread (some (.probe request))
      | _, _ => state
  | .advance thread answers =>
      match state.bindings thread with
      | none => state
      | some flight =>
          let advanced := flight.advance runtime answers state.engine
          { state with system := { state.system with engine := advanced.1 } }.withBinding thread
            advanced.2.toOption

/-- The binding whose device section finds a newer generation, which undoes its insertion. -/
def rollsBack (state : BindingSystem) :
    BindingAction → Option (PortBindingRequest × Option CapabilityBinding)
  | .advance thread _ =>
      match state.bindings thread with
      | some (.device request evidence) =>
          match state.engine.devices[request.parentDevice]? with
          | some existing =>
              if existing.generation < request.deviceGeneration then none
              else if request.deviceGeneration < existing.generation then some (request, evidence)
              else none
          | none => none
      | _ => none
  | _ => none

end BindingSystem

end PortFabric
