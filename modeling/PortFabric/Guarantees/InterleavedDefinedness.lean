import PortFabric.Guarantees.CoordinatedSessions
import PortFabric.Guarantees.ParentDevices

/-!
# Definedness under interleaving

A mutation in flight keeps the snapshot it was planned on while other threads
change the records and the device table. As long as no state is loaded meanwhile,
the parent device a plan dereferences is still recorded when it is read.
-/

set_option autoImplicit false

namespace PortFabric

open Checks

section Sections

variable {runtime : Runtime} {answers : MutationAnswers} {impl : EngineImpl}

/-- What a flight carries can be dereferenced, and committed, in front of this device table. -/
def Flight.Grounded (impl : EngineImpl) : Flight → Prop
  | topology _ snapshot => snapshot.DeviceRecorded impl.devices
  | context _ snapshot => snapshot.DeviceRecorded impl.devices
  | plan _ snapshot read =>
      snapshot.DeviceRecorded impl.devices ∧
        (∀ generation, read.deviceGeneration = some generation →
          (impl.devices[snapshot.parentDevice]?).isSome = true) ∧
        (snapshot.configuration.isSome = true → snapshot.lifecycle.isLive = true →
          read.deviceGeneration.isSome = true)
  | apply _ _ proposal => proposal.next.DeviceRecorded impl.devices
  | conclude _ _ _ (.commit proposal applied settled) =>
      (EngineImpl.committedRecord proposal applied settled).DeviceRecorded impl.devices
  | conclude _ _ _ (.reject reply) => reply ≠ .undefinedBehaviour
  | _ => True

theorem Flight.Grounded.mono {flight : Flight} {after : EngineImpl}
    (grounded : flight.Grounded impl) (kept : DevicesKept impl after) :
    flight.Grounded after := by
  cases flight with
  | topology mutation snapshot => exact PortRecord.DeviceRecorded.mono kept grounded
  | context mutation snapshot => exact PortRecord.DeviceRecorded.mono kept grounded
  | plan mutation snapshot read =>
      obtain ⟨recorded, table, present⟩ := grounded
      exact ⟨recorded.mono kept, fun generation known => kept _ (table generation known), present⟩
  | apply mutation snapshot proposal => exact PortRecord.DeviceRecorded.mono kept grounded
  | conclude mutation snapshot applied decision =>
      cases decision with
      | commit proposal evidence settled => exact PortRecord.DeviceRecorded.mono kept grounded
      | _ => exact grounded
  | _ => trivial

/-- Only bindings change the device table. -/
theorem Flight.advance_devices (flight : Flight) :
    (flight.advance runtime answers impl).1.devices = impl.devices := by
  obtain same | ⟨_, _, same⟩ | ⟨_, _, _, _, same⟩ | same :=
    flight.advance_cases runtime answers impl
  · rw [same]
  · rw [same, EngineImpl.authorised_devices]
  · rw [same]
    rfl
  · rw [same, EngineImpl.persistLockedState_devices]

/-- What a section leaves in flight is grounded, and it does not end undefined. -/
def Flight.Defined (impl : EngineImpl) : Except Reply Flight → Prop
  | .ok next => next.Grounded impl
  | .error reply => reply ≠ .undefinedBehaviour

private theorem defined_of_avoids {ended : Except Reply Flight}
    (avoids : Avoids .undefinedBehaviour ended)
    (goes : ∀ next, ended = .ok next → next.Grounded impl) : Flight.Defined impl ended := by
  cases ended with
  | ok next => exact goes next rfl
  | error reply =>
      intro undefined
      rw [undefined] at avoids
      exact avoids rfl

private theorem authorise_defined (runtime : Runtime) (impl : EngineImpl) (mutation : Mutation) :
    Avoids .undefinedBehaviour (authorise runtime impl mutation).2 := by
  unfold authorise
  dsimp only
  split
  · exact .ok ()
  · exact .error Reply.noConfusion

theorem preparePlan_defined {profiles : ProfileRegistry} {mutation : Mutation}
    {snapshot : PortRecord} {context : MutationContext} {answer : ProviderAnswer}
    (present : snapshot.configuration.isSome = true → snapshot.lifecycle.isLive = true →
      context.deviceGeneration.isSome = true) :
    Avoids .undefinedBehaviour
      (preparePlan runtime profiles mutation snapshot context answer) := by
  unfold preparePlan
  refine .bind (evidenceFor_defined runtime mutation snapshot answer) fun _ _ =>
    .bind (planReply_defined (Mutation.build_avoids ?_ mutation)) fun _ _ =>
    .bind (validatePlan_defined snapshot _) fun _ _ => .ok _
  intro configured live
  exact present configured live

theorem Flight.Grounded.advance (runtime : Runtime) (answers : MutationAnswers) {flight : Flight}
    (grounded : flight.Grounded impl) (recorded : impl.DevicesRecorded) :
    Flight.Defined impl (flight.advance runtime answers impl).2 := by
  cases flight with
  | authority mutation =>
      refine defined_of_avoids
        (.bind (authorise_defined runtime impl mutation) fun _ _ => .ok _) ?_
      intro next went
      obtain ⟨_, _, same⟩ := bind_eq_ok.mp went
      cases same
      trivial
  | lookup mutation =>
      refine defined_of_avoids (.bind (observe_defined impl mutation) fun _ _ => .ok _) ?_
      intro next went
      obtain ⟨snapshot, observed, same⟩ := bind_eq_ok.mp went
      cases same
      exact recorded _ _ (observe_ok observed).1
  | topology mutation snapshot =>
      refine defined_of_avoids (.bind (.ite (fun _ => .error Reply.noConfusion) fun _ => .ok ())
        fun _ _ => .bind (snapshotGates_defined _ _ _) fun _ _ => .ok _) ?_
      intro next went
      obtain ⟨_, _, went⟩ := bind_eq_ok.mp went
      obtain ⟨_, _, same⟩ := bind_eq_ok.mp went
      cases same
      exact grounded
  | context mutation snapshot =>
      refine defined_of_avoids (.bind (deviceGate_defined _ _ _) fun _ _ => .ok _) ?_
      intro next went
      obtain ⟨_, _, same⟩ := bind_eq_ok.mp went
      cases same
      have table : (readContext impl snapshot).deviceGeneration.isSome =
          (impl.devices[snapshot.parentDevice]?).isSome := by
        rw [readContext, Option.isSome_map]
      refine ⟨grounded, ?_, ?_⟩
      · intro generation known
        rw [← table, known]
        rfl
      · intro configured live
        rw [table]
        exact grounded live configured
  | plan mutation snapshot context =>
      obtain ⟨before, table, present⟩ := grounded
      refine defined_of_avoids (.bind (preparePlan_defined present) fun _ _ => .ok _) ?_
      intro next went
      obtain ⟨_, prepared, same⟩ := bind_eq_ok.mp went
      cases same
      obtain ⟨capability, proposal, built, _, rfl⟩ := preparePlan_ok prepared
      have next := Mutation.build_deviceRecorded built table before
      exact next.congr id rfl rfl
  | apply mutation snapshot proposal =>
      simp only [Flight.advance, Flight.Defined]
      cases decided : applyPlan runtime snapshot proposal answers with
      | commit plan evidence settled =>
          obtain ⟨_, _, _, final, _⟩ := (applyPlan_commit decided).final
          simp only [Flight.Grounded]
          rw [final]
          have next : proposal.next.DeviceRecorded impl.devices := grounded
          exact next.congr id rfl rfl
      | reject reply =>
          obtain ⟨_, rfl⟩ := applyPlan_rejects decided
          exact Reply.noConfusion
      | uncertain generation detail code reply => trivial
  | conclude mutation snapshot applied decision =>
      cases decision with
      | reject reply => exact grounded
      | commit proposal evidence settled =>
          simp only [Flight.advance, concludeStep]
          split
          · exact Reply.noConfusion
          · trivial
      | uncertain generation detail code reply =>
          simp only [Flight.advance, concludeStep]
          split
          · trivial
          · exact Reply.noConfusion
  | persist mutation settlement => cases settlement <;> exact Reply.noConfusion

end Sections

section Tables

variable {runtime : Runtime} {answers : MutationAnswers} {impl : EngineImpl}

/-- A binding takes no device out of the table. -/
theorem BindingFlight.advance_devices (flight : BindingFlight) :
    DevicesKept impl (flight.advance runtime answers impl).1 := by
  cases flight with
  | probe request => exact .of_same rfl
  | insert request evidence =>
      simp only [advance]
      split
      · exact .of_same rfl
      · next inserted stored =>
          obtain ⟨_, _, same⟩ := insertBinding_ok stored
          rw [same]
          exact .of_same rfl
  | device request evidence =>
      rw [advance_device]
      exact bindDevice_devices runtime impl request _
  | persist request evidence => exact .of_same (EngineImpl.persistLockedState_devices ..)

/-- A section keeps the records dereferenceable when its flight is. -/
theorem Flight.Grounded.records {flight : Flight} (grounded : flight.Grounded impl)
    (recorded : impl.DevicesRecorded) :
    (flight.advance runtime answers impl).1.DevicesRecorded := by
  have effect := flight.advance_effect runtime answers impl
  unfold EngineImpl.DevicesRecorded at recorded ⊢
  rw [flight.advance_devices]
  generalize (flight.advance runtime answers impl).1 = after at effect ⊢
  cases effect with
  | kept records =>
      rw [records]
      exact recorded
  | committed stored =>
      obtain ⟨_, _, _, _, _, _, rfl⟩ := EngineImpl.commitRecord_ok stored
      exact recorded.insert grounded
  | doubted found =>
      exact recorded.insert (.of_not_live (PortRecord.uncertain_not_live ..))

end Tables

/-- The records, and what every mutation in flight carries, can be dereferenced. -/
structure BindingSystem.Grounded (state : BindingSystem) : Prop where
  recorded : state.engine.DevicesRecorded
  flights : ∀ thread flight, state.system.flights thread = some flight →
    flight.Grounded state.engine

/-- The host puts a saved state in the place of the current one. -/
def BindingAction.isLoad : BindingAction → Bool
  | .act action => action.isLoad
  | _ => false

namespace BindingSystem

variable {runtime : Runtime} {state : BindingSystem} {action : BindingAction}

theorem step_devices (runtime : Runtime) (state : BindingSystem) (action : BindingAction)
    (unloaded : action.isLoad = false) :
    DevicesKept state.engine (state.step runtime action).engine := by
  cases action with
  | act action =>
      rcases System.step_engine runtime state.system action with
        same | ⟨_, _, flight, _, _, same⟩ | ⟨operation, rfl, _, same⟩
      · exact .of_same (congrArg EngineImpl.devices same)
      · exact .of_same ((congrArg EngineImpl.devices same).trans flight.advance_devices)
      · intro device present
        have kept : DevicesKept state.engine (state.engine.perform runtime operation) :=
          EngineImpl.perform_devices operation unloaded
        have moved : (state.step runtime (.act (.operate operation))).engine =
            state.engine.perform runtime operation := same
        rw [moved]
        exact kept device present
  | bind thread request =>
      rw [engine, engine, step_bind]
      exact .of_same rfl
  | advance thread answers =>
      simp only [step]
      split
      · exact .of_same rfl
      · next flight _ => exact flight.advance_devices

theorem Grounded.recorded_step (grounded : state.Grounded) :
    (state.step runtime action).engine.DevicesRecorded := by
  cases action with
  | act action =>
      rcases System.step_engine runtime state.system action with
        same | ⟨_, _, flight, _, flying, same⟩ | ⟨operation, _, _, same⟩
      · simp only [engine, BindingSystem.step, same]
        exact grounded.recorded
      · simp only [engine, BindingSystem.step, same]
        exact (grounded.flights _ flight flying).records grounded.recorded
      · simp only [engine, BindingSystem.step, same]
        exact EngineImpl.perform_devicesRecorded grounded.recorded operation
  | bind thread request =>
      rw [engine, step_bind]
      exact grounded.recorded
  | advance thread answers =>
      have kept := step_devices runtime state (.advance thread answers) rfl
      have effect := advance_effect runtime state thread answers
      have before : OrderedMap.Every (fun _ record =>
          record.DeviceRecorded (state.step runtime (.advance thread answers)).engine.devices)
          state.engine.records :=
        grounded.recorded.imp fun _ _ recorded => recorded.mono kept
      unfold EngineImpl.DevicesRecorded
      generalize (state.step runtime (.advance thread answers)).engine = after at effect before ⊢
      generalize state.rollsBack (.advance thread answers) = undone at effect
      cases effect with
      | kept records _ =>
          rw [records]
          exact before
      | inserted request evidence _ records _ =>
          rw [records]
          exact before.insert (.of_not_live rfl)
      | undone request evidence records _ =>
          rw [records]
          intro port record found
          rw [OrderedMap.lookup_erase] at found
          split at found
          · cases found
          · exact before port record found

theorem Grounded.step (grounded : state.Grounded) (unloaded : action.isLoad = false) :
    (state.step runtime action).Grounded := by
  refine ⟨grounded.recorded_step, ?_⟩
  have kept := step_devices runtime state action unloaded
  intro thread flight flying
  cases action with
  | bind binder request =>
      rw [step_bind] at flying
      exact (grounded.flights thread flight flying).mono kept
  | advance mover answers =>
      rw [advance_flights] at flying
      exact (grounded.flights thread flight flying).mono kept
  | act action =>
      rcases System.step_flights flying with ⟨found, _⟩ | ⟨mutation, _, rfl, _⟩ |
        ⟨answers, before, after, rfl, found, advanced⟩
      · exact (grounded.flights thread flight found).mono kept
      · trivial
      · have goes := Flight.Grounded.advance runtime answers
          (grounded.flights thread before found) grounded.recorded
        rw [advanced] at goes
        exact Flight.Grounded.mono goes kept

end BindingSystem

namespace FabricCoordinator

/-- No session waits behind a mutation that was undefined. -/
def Unharmed (state : FabricCoordinator) : Prop :=
  ∀ thread conversation frame, state.threads thread = some conversation →
    conversation.errand ≠ .undefined frame

/-- No mutation in flight is about to be undefined, and no session waits behind one that was. -/
structure Defined (runtime : Runtime) (state : FabricCoordinator) : Prop where
  sections : ∀ thread flight answers, state.fabric.system.flights thread = some flight →
    (flight.advance runtime answers state.engine).2 ≠ .error .undefinedBehaviour
  sessions : state.Unharmed

end FabricCoordinator

/-- The host loads a saved state while sessions are served. -/
def CoordinatorEvent.isLoad : CoordinatorEvent → Bool
  | .host action => action.isLoad
  | _ => false

theorem BindingSystem.Grounded.sections {state : BindingSystem} (grounded : state.Grounded)
    {runtime : Runtime} {thread : Nat} {flight : Flight} (answers : MutationAnswers)
    (flying : state.system.flights thread = some flight) :
    (flight.advance runtime answers state.engine).2 ≠ .error .undefinedBehaviour := by
  have defined := Flight.Grounded.advance runtime answers (grounded.flights thread flight flying)
    grounded.recorded
  intro undefined
  rw [undefined] at defined
  exact defined rfl

namespace FabricCoordinator

variable {runtime : Runtime} {state : FabricCoordinator}

/-- A section that ends undefined belongs to a mutation. -/
theorem Section.undefined {fabric : BindingSystem} {thread : Nat} {answers : MutationAnswers}
    {errand : Errand} {action : BindingAction}
    (moves : Section runtime fabric thread answers errand action (some .undefinedBehaviour)) :
    ∃ flight, fabric.system.flights thread = some flight ∧
      (flight.advance runtime answers fabric.engine).2 = .error .undefinedBehaviour := by
  generalize replied : some Reply.undefinedBehaviour = reply at moves
  cases moves with
  | @mutation _ _ _ flight flying =>
      refine ⟨flight, flying, ?_⟩
      cases ended : (flight.advance runtime answers fabric.engine).2 with
      | ok next =>
          rw [ended] at replied
          cases replied
      | error reply =>
          rw [ended] at replied
          cases replied
          rfl
  | @binding _ _ _ flight flying =>
      cases ended : (flight.advance runtime answers fabric.engine).2 with
      | ok next =>
          rw [ended] at replied
          cases replied
      | error result =>
          rw [ended] at replied
          cases replied

theorem grounded_step (grounded : state.fabric.Grounded) {event : CoordinatorEvent}
    (unloaded : event.isLoad = false) : (state.step runtime event).fabric.Grounded := by
  rcases step_fabric runtime state event with same | ⟨action, stepped, own | rfl⟩
  · rw [same]
    exact grounded
  · rw [stepped]
    refine grounded.step ?_
    cases action with
    | act action =>
        cases action with
        | operate operation => cases operation <;> first | rfl | cases own
        | start | advance => rfl
    | bind | advance => rfl
  · rw [stepped]
    exact grounded.step unloaded

/-- A thread that waits behind undefined behaviour was put there by a section that ended so. -/
theorem sessions_step (grounded : state.fabric.Grounded)
    (sessions : state.Unharmed) (event : CoordinatorEvent) :
    (state.step runtime event).Unharmed := by
  have placed (fabric : FabricCoordinator) (kept : fabric.threads = state.threads) (thread : Nat)
      (after : SessionThread) (defined : ∀ frame, after.errand ≠ .undefined frame) :
      (fabric.withThread thread after).Unharmed := by
    intro other conversation frame there
    rw [threads_withThread, kept] at there
    split at there
    · cases there
      exact defined frame
    · exact sessions other conversation frame there
  have acted (action : Option BindingAction) :
      (action.elim state (state.act runtime)).threads = state.threads := by
    cases action <;> rfl
  generalize stepped : state.step runtime event = after
  have moves := step_moves runtime state event
  rw [stepped] at moves
  cases moves with
  | ignored _ => exact sessions
  | accepted _ _ _ => exact placed state rfl _ _ fun _ => Errand.noConfusion
  | round action reception there live idle publisher refused =>
      exact placed _ (acted action) _ _ fun _ => Errand.noConfusion
  | departed there idle departs =>
      refine placed _ rfl _ _ fun frame => ?_
      cases departs <;> exact Errand.noConfusion
  | moved there moves => exact sessions
  | landed there moves asked answered => exact placed _ rfl _ _ fun _ => Errand.noConfusion
  | crashed there moves asked =>
      obtain ⟨flight, flying, undefined⟩ := moves.undefined
      exact absurd undefined (grounded.sections _ flying)
  | hosted apart => exact sessions

/--
Whatever a process did before and however its sessions are then interleaved, no
mutation reads a parent device that is not there, as long as the host loads no
state while sessions are served.
-/
theorem sessions_stay_defined (runtime : Runtime) (operations : List Operation)
    (events : List CoordinatorEvent) (unloaded : ∀ event ∈ events, event.isLoad = false) :
    Defined runtime
      (Runs.run (step runtime) (initial (EngineImpl.after runtime operations)) events) := by
  have initially : (initial (EngineImpl.after runtime operations)).fabric.Grounded := by
    refine ⟨after_devicesRecorded runtime operations, ?_⟩
    intro thread flight flying
    cases flying
  have kept (state : FabricCoordinator) (event : CoordinatorEvent)
      (unloaded : event.isLoad = false) (held : state.fabric.Grounded ∧ state.Unharmed) :
      (state.step runtime event).fabric.Grounded ∧ (state.step runtime event).Unharmed :=
    ⟨grounded_step held.1 unloaded, sessions_step held.1 held.2 event⟩
  have unharmed : (initial (EngineImpl.after runtime operations)).Unharmed := by
    intro thread conversation frame there
    cases there
  obtain ⟨grounded, sessions⟩ :=
    Runs.invariant_of_forall_mem kept ⟨initially, unharmed⟩ unloaded
  exact ⟨fun _ _ answers flying => grounded.sections answers flying, sessions⟩

end FabricCoordinator

def Errand.isUndefined : Errand → Bool
  | undefined _ => true
  | _ => false

namespace RacingLoad

def runtime : Runtime :=
  { Fixture.runtime with config := Fixture.engineConfig "coordinator" "ports.pf" .first }

def port : PortId := "syn-sw1-p01"

def envelope (attempt : MutationAttemptId) : MutationEnvelope :=
  Fixture.envelope port "agent-a" "boot-a" attempt .first

/-- One port is bound, claimed and configured. -/
def operations : List Operation :=
  [ Fixture.bind port "bind-1", .mutate (Fixture.claim (envelope "claim-1") "owner-a") {},
    .mutate (Fixture.configuration (envelope "configure-1")) Fixture.verified ]

def reconfigure : PortMutationMessage where
  kind := 2
  authority :=
    { epoch := .first, publisher := "agent-a", boot := "boot-a", attempt := "reconfigure-1",
      expectedConfiguration := .first }
  port
  configuration := some { Fixture.makeConfiguration port with mtu := ⟨2048, by decide⟩ }

/-- The worker reconfigures the port; the host acts between its topology and its context. -/
def events (between : List CoordinatorEvent) : List CoordinatorEvent :=
  [ .accept 0, TwoSessions.receive 0 .hello 1 (encodeHello TwoSessions.hello),
    TwoSessions.receive 0 .mutation 2 (encodeMutation reconfigure),
    .advance 0 {}, .advance 0 {}, .advance 0 {} ] ++ between ++
  [.advance 0 {}, .advance 0 { provider := Fixture.provider }]

def emptied : PersistedState where
  epoch := .first
  engineGeneration := .first
  topology := .first

/-- The host loads a state without ports and devices. -/
def load : CoordinatorEvent := .host (.act (.operate (.load (.ok emptied))))

end RacingLoad

/-- The reconfiguration stays defined when the host only observes the topology meanwhile. -/
theorem observed_topology_defined :
    FabricCoordinator.Defined RacingLoad.runtime
      (Runs.run (FabricCoordinator.step RacingLoad.runtime)
        (.initial (EngineImpl.after RacingLoad.runtime RacingLoad.operations))
        (RacingLoad.events [.host (.act (.operate (.setTopologyGeneration .first)))])) :=
  FabricCoordinator.sessions_stay_defined _ _ _ (by decide)

set_option maxRecDepth 100000 in
/-- A load between two of its sections takes the device away that the plan then reads. -/
theorem racing_load_undefined :
    ¬FabricCoordinator.Defined RacingLoad.runtime
      (Runs.run (FabricCoordinator.step RacingLoad.runtime)
        (.initial (EngineImpl.after RacingLoad.runtime RacingLoad.operations))
        (RacingLoad.events [RacingLoad.load])) := by
  have waits : ((Runs.run (FabricCoordinator.step RacingLoad.runtime)
      (.initial (EngineImpl.after RacingLoad.runtime RacingLoad.operations))
      (RacingLoad.events [RacingLoad.load])).threads 0).any (fun conversation =>
        conversation.errand.isUndefined) = true := by
    decide +kernel
  intro defined
  rw [Option.any_eq_true] at waits
  obtain ⟨conversation, there, undefined⟩ := waits
  cases errand : conversation.errand with
  | undefined frame => exact defined.sessions _ _ frame there errand
  | idle | mutation | binding =>
      rw [errand] at undefined
      cases undefined

end PortFabric
