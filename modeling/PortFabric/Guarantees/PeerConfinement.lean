import PortFabric.Library.Growth
import PortFabric.Guarantees.CoordinatedSessions
import PortFabric.Guarantees.ParentDevices

/-!
# Confinement of peers

What any number of peers can make of the engine behind a coordinator, whatever
they send and however their sessions are interleaved.
-/

set_option autoImplicit false

namespace PortFabric

open OrderedMap

/-- The device may have been replaced by a newer generation of it. -/
def DeviceBinding.Replaces (before after : DeviceBinding) : Prop :=
  before.generation ≤ after.generation

theorem DeviceBinding.Replaces.refl (binding : DeviceBinding) : binding.Replaces binding :=
  Generation.le_refl _

/-- What sessions alone can make of an engine. -/
structure EngineImpl.Confined (config : EngineConfig) (before after : EngineImpl) : Prop where
  epoch : after.epoch = before.epoch
  topology : after.topology = before.topology
  profiles : after.profiles = before.profiles
  shuttingDown : after.shuttingDown = before.shuttingDown
  publishers : Growth maxPublishers (fun _ _ => True) before.publishers after.publishers
  devices : Growth config.deviceBound DeviceBinding.Replaces before.devices after.devices
  records : after.records.size ≤ max before.records.size config.portBound

namespace EngineImpl.Confined

variable {config : EngineConfig} {before middle after impl : EngineImpl}

theorem refl (impl : EngineImpl) : EngineImpl.Confined config impl impl where
  epoch := rfl
  topology := rfl
  profiles := rfl
  shuttingDown := rfl
  publishers := .refl fun _ => trivial
  devices := .refl DeviceBinding.Replaces.refl
  records := Nat.le_max_left ..

theorem trans (lower : EngineImpl.Confined config before middle)
    (upper : EngineImpl.Confined config middle after) :
    EngineImpl.Confined config before after where
  epoch := upper.epoch.trans lower.epoch
  topology := upper.topology.trans lower.topology
  profiles := upper.profiles.trans lower.profiles
  shuttingDown := upper.shuttingDown.trans lower.shuttingDown
  publishers := lower.publishers.trans (fun _ _ _ _ _ => trivial) upper.publishers
  devices := lower.devices.trans (fun _ _ _ => Generation.le_trans) upper.devices
  records := by
    have below := lower.records
    have above := upper.records
    omega

/-- The port records and what is kept beside them change, within the bound. -/
theorem of_records {records : RecordMap} {indexes : PortIndexes} {generation : EngineGeneration}
    {durabilityDirty : Bool} (bounded : records.size ≤ max impl.records.size config.portBound) :
    EngineImpl.Confined config impl { impl with records, indexes, generation, durabilityDirty } :=
  { refl impl with records := bounded }

theorem of_publishers {publishers : Std.ExtTreeMap PublisherId PublisherRecord}
    (grows : Growth maxPublishers (fun _ _ => True) impl.publishers publishers) :
    EngineImpl.Confined config impl { impl with publishers } :=
  { refl impl with publishers := grows }

theorem of_devices {devices : Std.ExtTreeMap DeviceId DeviceBinding}
    (grows : Growth config.deviceBound DeviceBinding.Replaces impl.devices devices) :
    EngineImpl.Confined config impl { impl with devices } :=
  { refl impl with devices := grows }

end EngineImpl.Confined

section Peers

variable {runtime : Runtime} {answers : MutationAnswers} {impl : EngineImpl}

theorem EngineImpl.persistLockedState_confined (runtime : Runtime) (store : StoreAnswers)
    (impl : EngineImpl) :
    impl.Confined runtime.config (impl.persistLockedState runtime store).1 := by
  obtain ⟨_, same⟩ := impl.persistLockedState_eq runtime store
  rw [same]
  exact .of_records (Nat.le_max_left ..)

theorem EngineImpl.authorised_confined (runtime : Runtime) (impl : EngineImpl)
    (mutation : Mutation) : impl.Confined runtime.config (impl.authorised runtime mutation) := by
  rcases checkAuthority_eq runtime impl mutation.authority with same | accepted
  · rw [authorised, same]
    exact .refl _
  · obtain ⟨_, _, ⟨_, _, _, _, same⟩ | ⟨absent, _, room, registered⟩⟩ :=
      checkAuthority_ok accepted
    · rw [authorised, same]
      exact .refl _
    · rw [authorised, registered]
      exact .of_publishers (.insert_fresh (fun _ => trivial) absent room _)

/-- A record that is there is replaced. -/
theorem EngineImpl.replaceRecord_confined {config : EngineConfig} {port : PortId}
    {before record : PortRecord} (found : impl.records[port]? = some before) :
    impl.Confined config (impl.replaceRecord port before record) := by
  have grown : Growth config.portBound (fun _ _ => True) impl.records
      (impl.records.insert port record) :=
    .insert_held (fun _ => trivial) found trivial
  exact .of_records grown.bounded

theorem Flight.advance_confined (flight : Flight) :
    impl.Confined runtime.config (flight.advance runtime answers impl).1 := by
  obtain same | ⟨mutation, _, same⟩ | ⟨_, _, _, found, same⟩ | same :=
    flight.advance_cases runtime answers impl
  · rw [same]
    exact .refl _
  · rw [same]
    exact EngineImpl.authorised_confined ..
  · rw [same]
    exact EngineImpl.replaceRecord_confined found
  · rw [same]
    exact EngineImpl.persistLockedState_confined ..

theorem BindingFlight.advance_confined (flight : BindingFlight) :
    impl.Confined runtime.config (flight.advance runtime answers impl).1 := by
  cases flight with
  | probe request => exact .refl _
  | insert request evidence =>
      simp only [advance, insertBinding]
      split
      · exact .refl _
      · next inserted stored =>
          split at stored
          · cases stored
          · next absent =>
              split at stored
              · cases stored
              · next room =>
                  split at stored
                  · cases stored
                  · cases stored
                    have grown : Growth runtime.config.portBound (fun _ _ => True) impl.records
                        (impl.records.insert request.port (boundRecord request evidence)) :=
                      .insert_fresh (fun _ => trivial) absent (Nat.not_le.mp room) _
                    exact .of_records grown.bounded
  | device request evidence =>
      rw [advance_device]
      unfold bindDevice
      dsimp only
      split
      · next absent =>
          split
          · exact .refl _
          · next room =>
              exact .of_devices (.insert_fresh DeviceBinding.Replaces.refl absent
                (Nat.not_le.mp room) _)
      · next existing found =>
          split
          · next newer =>
              exact .of_devices
                (.insert_held DeviceBinding.Replaces.refl found (Generation.le_of_lt newer))
          · split
            · refine .of_records ?_
              have erased := Std.ExtTreeMap.size_erase_le (t := impl.records) (k := request.port)
              omega
            · exact .refl _
  | persist request evidence => exact EngineImpl.persistLockedState_confined ..

theorem registerPublisher_confined (config : EngineConfig) (publisher : PublisherId)
    (boot : WorkerBootId) (epoch : CoordinatorEpoch) :
    impl.Confined config (PortFabricEngine.registerPublisher impl publisher boot epoch).1 := by
  unfold PortFabricEngine.registerPublisher
  dsimp only
  split
  · exact .refl _
  · split
    · exact .refl _
    · split
      · next absent =>
          split
          · exact .refl _
          · next room =>
              exact .of_publishers
                (.insert_fresh (fun _ => trivial) absent (Nat.not_le.mp room) _)
      · next existing found =>
          repeat' split
          all_goals first
            | exact .refl _
            | exact .of_publishers (.insert_held (fun _ => trivial) found trivial)

theorem fencePublisher_confined (config : EngineConfig) (publisher : PublisherId)
    (boot : WorkerBootId) :
    impl.Confined config (PortFabricEngine.fencePublisher impl publisher boot).1 := by
  rcases EngineImpl.fencePublisher_effect_cases impl publisher boot with
    ⟨same, _⟩ | ⟨existing, found, _, _, _, fenced⟩
  · rw [same]
    exact .refl _
  · rw [fenced]
    have marked : impl.Confined config
        { impl with
          publishers := impl.publishers.insert publisher { existing with fenced := true } } :=
      .of_publishers (.insert_held (fun _ => trivial) found trivial)
    refine marked.trans (.of_records ?_)
    rw [Std.ExtTreeMap.size_map]
    exact Nat.le_max_left ..

theorem EngineImpl.perform_confined {operation : Operation}
    (own : FabricCoordinator.ofPublisher operation = true) :
    impl.Confined runtime.config (impl.perform runtime operation) := by
  cases operation with
  | registerPublisher publisher boot epoch => exact registerPublisher_confined ..
  | fencePublisher publisher boot => exact fencePublisher_confined ..
  | bindPort | mutate | defineProfile | beginEpoch | registerDevice | setTopologyGeneration
  | save | load | shutdown => cases own

end Peers

namespace FabricCoordinator

variable {runtime : Runtime} {state : FabricCoordinator}

theorem act_confined {fabric : BindingSystem} {action : BindingAction}
    (peer : ofPeer action = true) :
    fabric.engine.Confined runtime.config (fabric.step runtime action).engine := by
  cases action with
  | act action =>
      rcases System.step_engine runtime fabric.system action with
        same | ⟨_, _, flight, _, _, same⟩ | ⟨operation, rfl, _, same⟩
      · simp only [BindingSystem.engine, BindingSystem.step, same]
        exact .refl _
      · simp only [BindingSystem.engine, BindingSystem.step, same]
        exact flight.advance_confined
      · simp only [BindingSystem.engine, BindingSystem.step, same]
        exact EngineImpl.perform_confined peer
  | bind thread request =>
      rw [BindingSystem.engine, BindingSystem.engine, BindingSystem.step_bind]
      exact .refl _
  | advance thread answers =>
      simp only [BindingSystem.step]
      split
      · exact .refl _
      · next flight _ => exact flight.advance_confined

/-- The step is not one of the host. -/
def ofSession : CoordinatorEvent → Bool
  | .host _ => false
  | _ => true

/--
Whatever any number of peers send, and however their sessions are interleaved,
the epoch, the topology, the profiles and the life of the engine stay the host's;
no publisher and no device is forgotten, no device goes back to an older
generation, and the tables keep to their bounds.
-/
theorem peers_stay_confined (runtime : Runtime) (state : FabricCoordinator)
    (events : List CoordinatorEvent) (peers : ∀ event ∈ events, ofSession event = true) :
    state.engine.Confined runtime.config (Runs.run (step runtime) state events).engine := by
  have kept (later : FabricCoordinator) (event : CoordinatorEvent)
      (peer : ofSession event = true)
      (confined : state.engine.Confined runtime.config later.engine) :
      state.engine.Confined runtime.config (later.step runtime event).engine := by
    rcases step_fabric runtime later event with same | ⟨action, stepped, own | rfl⟩
    · simp only [engine, same]
      exact confined
    · simp only [engine, stepped]
      exact confined.trans (act_confined own)
    · cases peer
  exact Runs.invariant_of_forall_mem kept (.refl _) peers

end FabricCoordinator

/-- Two sessions bind and claim a port and confine themselves to that. -/
theorem two_sessions_confined :
    TwoSessions.fresh.Confined Fixture.runtime.config
      (Runs.run (FabricCoordinator.step Fixture.runtime) (.initial TwoSessions.fresh)
        TwoSessions.events).engine :=
  FabricCoordinator.peers_stay_confined Fixture.runtime (.initial TwoSessions.fresh)
    TwoSessions.events (by decide)

end PortFabric
