import PortFabric.Engine.Fixture
import PortFabric.Engine.Gathering
import PortFabric.Engine.References

/-!
# Referential closure

A container should carry the parent device and the bound profile generation of
every record in it. The tables are read before the records, so a reference made
in between points outside the container.
-/

set_option autoImplicit false

namespace PortFabric

open PortFabricEngine

namespace PersistedState

variable (state : PersistedState)

def Names (device : DeviceId) : Prop :=
  ∃ binding ∈ state.devices, binding.device = device

def Lists (reference : PortProfileId × PortProfileGeneration) : Prop :=
  ∃ profile ∈ state.profiles, (profile.id, profile.generation) = reference

/-- The container carries what its records refer to. -/
structure Closed : Prop where
  devices : ∀ record ∈ state.records, state.Names record.parentDevice
  profiles : ∀ record ∈ state.records, ∀ reference ∈ record.boundProfile?, state.Lists reference

end PersistedState

/-- The parent device of every record is registered. -/
def EngineImpl.Registered (impl : EngineImpl) : Prop :=
  OrderedMap.Every (fun _ record => (impl.devices[record.parentDevice]?).isSome = true)
    impl.records

/-- The engine knows the device and the profile generation of every record. -/
structure EngineImpl.Closed (impl : EngineImpl) : Prop where
  devices : impl.Registered
  profiles : impl.RecordsDefined

/-- The container is closed, and so is every engine that recovers from it. -/
structure PersistedState.Recoverable (state : PersistedState) : Prop where
  closed : state.Closed
  recovered : ∀ (runtime : Runtime) (impl : EngineImpl),
    Recovers runtime impl (.ok state) state → (load runtime impl (.ok state)).1.Closed

/-- What the gathering has read so far carries what the record refers to. -/
def Gathering.Covers (record : PortRecord) : Gathering → Prop
  | .profiles gathered => gathered.Names record.parentDevice
  | .records gathered =>
      gathered.Names record.parentDevice ∧
        ∀ reference ∈ record.boundProfile?, gathered.Lists reference
  | _ => True

/-- The record refers to something that no record of the port referred to before. -/
def EngineImpl.Introduces (impl : EngineImpl) (port : PortId) (record : PortRecord) : Prop :=
  ∀ before, impl.records[port]? = some before →
    ¬(before.parentDevice = record.parentDevice ∧ before.boundProfile? = record.boundProfile?)

/-- Every container that is complete is closed, and recovers to a closed engine. -/
def GatheringSystem.GathersClosed (system : GatheringSystem) : Prop :=
  ∀ thread gathered, system.gatherings thread = some (.write gathered) → gathered.Recoverable

/--
The devices are read when the device of every record is registered, no
reference is introduced that a gathering has passed, and no load leaves a
profile undefined that a record or a mutation in flight binds.
-/
structure Timely (runtime : Runtime) (system : GatheringSystem) (action : GatheringAction) :
    Prop where
  registered : ∀ thread store, action = .advance thread store →
    system.gatherings thread = some .authority → system.engine.Registered
  ahead : ∀ thread gathering, system.gatherings thread = some gathering →
    ∀ (port : PortId) (record : PortRecord),
      (system.step runtime action).engine.records[port]? = some record →
        system.engine.Introduces port record → gathering.Covers record
  loads : ∀ operation, action = .act (.act (.operate operation)) →
    system.state.system.LoadsDefined runtime operation

section Recoveries

variable {runtime : Runtime} {impl : EngineImpl} {state : PersistedState}

theorem PersistedState.Names.recovered {device : DeviceId} {epoch : CoordinatorEpoch}
    (named : state.Names device) :
    ((impl.recoverAuthority state epoch).devices[device]?).isSome = true := by
  have kept (bindings : List DeviceBinding) {devices : Std.ExtTreeMap DeviceId DeviceBinding}
      (known : (devices[device]?).isSome = true ∨ ∃ binding ∈ bindings, binding.device = device) :
      ((bindings.foldl (fun devices binding => devices.insert binding.device binding)
        devices)[device]?).isSome = true := by
    induction bindings generalizing devices with
    | nil =>
        obtain stored | ⟨_, member, _⟩ := known
        · exact stored
        · cases member
    | cons first rest ih =>
        apply ih
        rw [OrderedMap.lookup_insert]
        obtain stored | ⟨binding, member, same⟩ := known
        · left
          split
          · rfl
          · exact stored
        · obtain rfl | later := List.mem_cons.mp member
          · simp [same]
          · exact .inr ⟨binding, later, same⟩
  exact kept state.devices (.inr named)

/-- An engine that recovers from a closed container knows what its records refer to. -/
theorem PersistedState.Closed.recovered (closed : state.Closed)
    (recovers : Recovers runtime impl (.ok state) state) :
    (load runtime impl (.ok state)).1.Closed := by
  obtain ⟨profiles, restored, same⟩ := recovers.load_eq
  obtain ⟨indexes, generation, rebuilt⟩ := recoverRecords_frame
    (({ impl with profiles } : EngineImpl).recoverAuthority state (impl.recoveredEpoch state)) state
  have registry : (load runtime impl (.ok state)).1.profiles = profiles := by
    rw [same, rebuilt]
    rfl
  have devices : (load runtime impl (.ok state)).1.devices =
      (({ impl with profiles } : EngineImpl).recoverAuthority state
        (impl.recoveredEpoch state)).devices := by
    rw [same, rebuilt]
  have origin : OrderedMap.Every
      (fun _ record => ∃ persisted ∈ state.records, persisted.recovered = record)
      (load runtime impl (.ok state)).1.records := by
    rw [same, rebuilt]
    exact restoreRecords_every OrderedMap.Every.empty fun record member => ⟨record, member, rfl⟩
  refine ⟨fun port record found => ?_, fun port record found reference bound => ?_⟩
  · obtain ⟨persisted, member, rfl⟩ := origin port record found
    rw [PortRecord.recovered_parentDevice, devices]
    exact (closed.devices persisted member).recovered
  · obtain ⟨persisted, member, rfl⟩ := origin port record found
    have kept : persisted.recovered.boundProfile? = persisted.boundProfile? :=
      PortRecord.boundProfile_congr (by rw [PortRecord.recovered_configuration])
    rw [kept] at bound
    obtain ⟨profile, listed, rfl⟩ := closed.profiles persisted member reference bound
    rw [registry, ← restored]
    exact restoreProfiles_defines recovers.profiles ((List.mem_insertionSort _).mpr listed)

theorem PersistedState.Closed.recoverable (closed : state.Closed) : state.Recoverable :=
  ⟨closed, fun _ _ recovers => closed.recovered recovers⟩

end Recoveries

section Bindings

variable {runtime : Runtime} {state : BindingSystem}

variable (runtime state) in
theorem BindingSystem.advance_registries (thread : Nat) (answers : MutationAnswers) :
    (state.step runtime (.advance thread answers)).engine.profiles = state.engine.profiles ∧
      (state.engine.Keyed → (state.step runtime (.advance thread answers)).engine.Keyed) := by
  cases found : state.bindings thread with
  | none =>
      simp only [step, found]
      exact ⟨trivial, id⟩
  | some flight =>
  simp only [step, found, BindingSystem.engine, withBinding]
  cases flight with
  | probe request => exact ⟨rfl, id⟩
  | insert request evidence =>
      simp only [BindingFlight.advance]
      split
      · exact ⟨rfl, id⟩
      · next inserted stored =>
          obtain ⟨_, _, rfl⟩ := insertBinding_ok stored
          exact ⟨rfl, fun keyed => keyed.congr rfl rfl⟩
  | device request evidence =>
      rw [BindingFlight.advance_device]
      exact ⟨bindDevice_profiles, bindDevice_keyed⟩
  | persist request evidence =>
      obtain ⟨_, same⟩ :=
        EngineImpl.persistLockedState_eq runtime answers.store state.system.engine
      simp only [BindingFlight.advance, same]
      exact ⟨trivial, fun keyed => keyed.congr rfl rfl⟩

theorem BindingEffect.recordsDefined {impl after : EngineImpl}
    {undone : Option (PortBindingRequest × Option CapabilityBinding)}
    (effect : BindingEffect impl undone after) (registry : after.profiles = impl.profiles)
    (defined : impl.RecordsDefined) : after.RecordsDefined := by
  rw [EngineImpl.RecordsDefined, registry]
  cases effect with
  | kept records _ =>
      rw [records]
      exact defined
  | inserted request evidence _ records _ =>
      rw [records]
      refine OrderedMap.Every.insert defined fun reference bound => ?_
      rw [boundRecord_boundProfile] at bound
      cases bound
  | undone request evidence records _ =>
      rw [records]
      intro port record found
      rw [OrderedMap.lookup_erase] at found
      split at found
      · cases found
      · exact defined port record found

theorem BindingSystem.step_defined {action : BindingAction} (defined : state.system.Defined)
    (loads : ∀ operation, action = .act (.operate operation) →
      state.system.LoadsDefined runtime operation) :
    (state.step runtime action).system.Defined := by
  cases action with
  | act action =>
      exact defined.step fun operation performed => loads operation (by rw [performed])
  | bind thread request =>
      rw [BindingSystem.step_bind]
      exact defined
  | advance thread answers =>
      obtain ⟨registry, keyed⟩ := state.advance_registries runtime thread answers
      have effect := state.advance_effect runtime thread answers
      refine ⟨keyed defined.keyed, effect.recordsDefined registry defined.records,
        fun other flight flying => ?_⟩
      rw [BindingSystem.advance_flights] at flying
      have known := defined.flights other flight flying
      rwa [← registry] at known

end Bindings

namespace GatheringSystem

/-- Every gathering covers the records so far, and every complete one is closed. -/
structure Sound (system : GatheringSystem) : Prop where
  defined : system.state.system.Defined
  covered : ∀ thread gathering, system.gatherings thread = some gathering →
    ∀ (port : PortId) (record : PortRecord), system.engine.records[port]? = some record →
      gathering.Covers record
  closed : ∀ thread gathered, system.gatherings thread = some (.write gathered) → gathered.Closed

variable {runtime : Runtime} {system : GatheringSystem}

theorem covers_congr {record other : PortRecord} {gathering : Gathering}
    (device : record.parentDevice = other.parentDevice)
    (profile : record.boundProfile? = other.boundProfile?) (covers : gathering.Covers record) :
    gathering.Covers other := by
  cases gathering with
  | authority | write => trivial
  | profiles gathered =>
      simp only [Gathering.Covers] at covers ⊢
      rwa [← device]
  | records gathered =>
      simp only [Gathering.Covers] at covers ⊢
      rwa [← device, ← profile]

/-- What comes between the sections of the gatherings leaves them covering the records. -/
theorem Sound.act {action : BindingAction} (sound : system.Sound)
    (timely : Timely runtime system (.act action)) :
    (system.step runtime (.act action)).Sound := by
  refine ⟨system.state.step_defined sound.defined fun operation performed => ?_, ?_, sound.closed⟩
  · exact timely.loads operation (by rw [performed])
  · intro thread gathering gathers port record found
    by_cases introduced : system.engine.Introduces port record
    · exact timely.ahead thread gathering gathers port record found introduced
    · simp only [EngineImpl.Introduces, not_forall, not_not] at introduced
      obtain ⟨before, stored, device, profile⟩ := introduced
      exact covers_congr device profile
        (sound.covered thread gathering gathers port before stored)

theorem Sound.withGathering (sound : system.Sound) {thread : Nat} {gathering : Option Gathering}
    (covered : ∀ next ∈ gathering, ∀ (port : PortId) (record : PortRecord),
      system.engine.records[port]? = some record → next.Covers record)
    (closed : ∀ gathered, gathering = some (.write gathered) → gathered.Closed) :
    (system.withGathering thread gathering).Sound := by
  refine ⟨sound.defined, fun other next gathers => ?_, fun other gathered gathers => ?_⟩
  · dsimp only [GatheringSystem.withGathering] at gathers
    split at gathers
    · exact covered next gathers
    · exact sound.covered other next gathers
  · dsimp only [GatheringSystem.withGathering] at gathers
    split at gathers
    · exact closed gathered gathers
    · exact sound.closed other gathered gathers

theorem names_of_registered {impl : EngineImpl} (keyed : impl.Keyed) {device : DeviceId}
    {gathered : PersistedState} (read : gathered.devices = impl.devices.toList.map Prod.snd)
    (registered : (impl.devices[device]?).isSome = true) : gathered.Names device := by
  obtain ⟨binding, found⟩ := Option.isSome_iff_exists.mp registered
  refine ⟨binding, ?_, keyed.devices _ _ found⟩
  rw [read]
  exact List.mem_map.mpr ⟨(device, binding), OrderedMap.mem_toList.mpr found, rfl⟩

theorem Sound.advance {thread : Nat} {store : StoreAnswers} (sound : system.Sound)
    (timely : Timely runtime system (.advance thread store)) :
    (system.step runtime (.advance thread store)).Sound := by
  simp only [step]
  cases gathers : system.gatherings thread with
  | none => exact sound
  | some gathering =>
      have covered := sound.covered thread gathering gathers
      cases gathering with
      | authority =>
          refine sound.withGathering ?_ nofun
          intro _ given port record found
          cases given
          exact names_of_registered sound.defined.keyed rfl
            (timely.registered thread store rfl gathers port record found)
      | profiles gathered =>
          refine sound.withGathering ?_ nofun
          intro _ given port record found
          cases given
          refine ⟨covered port record found, fun reference bound => ?_⟩
          exact sound.defined.keyed.profiles.listed
            (sound.defined.records port record found reference bound)
      | records gathered =>
          refine sound.withGathering ?_ ?_
          · intro _ given port record found
            cases given
            trivial
          · intro _ given
            cases given
            refine ⟨fun record member => ?_, fun record member => ?_⟩
            · obtain ⟨⟨port, _⟩, listed, rfl⟩ := List.mem_map.mp member
              exact (covered port _ (OrderedMap.mem_toList.mp listed)).1
            · obtain ⟨⟨port, _⟩, listed, rfl⟩ := List.mem_map.mp member
              exact (covered port _ (OrderedMap.mem_toList.mp listed)).2
      | write gathered =>
          have written : (system.withEngine (Gathering.advance runtime.config store system.engine
              (.write gathered)).1).Sound :=
            ⟨⟨sound.defined.keyed.congr rfl rfl, sound.defined.records, sound.defined.flights⟩,
              sound.covered, sound.closed⟩
          exact written.withGathering nofun nofun

theorem Sound.step {action : GatheringAction} (sound : system.Sound)
    (timely : Timely runtime system action) : (system.step runtime action).Sound := by
  cases action with
  | act action => exact sound.act timely
  | advance thread store => exact sound.advance timely
  | gather thread =>
      simp only [GatheringSystem.step]
      split
      · refine sound.withGathering ?_ nofun
        intro _ given port record found
        cases given
        trivial
      · exact sound

theorem sound_initial (runtime : Runtime) : (GatheringSystem.initial runtime).Sound := by
  have defined : (GatheringSystem.initial runtime).state.system.Defined :=
    ⟨⟨ProfileRegistry.Keyed.empty, OrderedMap.Every.empty⟩, OrderedMap.Every.empty,
      fun _ _ flying => (by cases flying)⟩
  exact ⟨defined, fun _ _ gathers => (by cases gathers), fun _ _ gathers => (by cases gathers)⟩

end GatheringSystem

/--
Along every interleaving in which no gathering is passed by a reference, and
each reads the devices when those of the records are registered, every
container is closed, and every engine that recovers from it is.
-/
theorem gathers_closed (runtime : Runtime) (actions : List GatheringAction)
    (timely : Runs.Along (GatheringSystem.step runtime) (Timely runtime) (.initial runtime)
      actions) :
    Runs.Throughout (GatheringSystem.step runtime) GatheringSystem.GathersClosed
      (.initial runtime) actions := by
  have sound : Runs.Throughout (GatheringSystem.step runtime) GatheringSystem.Sound
      (.initial runtime) actions :=
    Runs.throughout_along (fun _ _ sound timely => sound.step timely)
      (GatheringSystem.sound_initial runtime) timely
  exact sound.imp fun _ sound thread gathered gathers =>
    (sound.closed thread gathered gathers).recoverable

section Undisturbed

variable {runtime : Runtime} {system : GatheringSystem}

/-- While nothing is gathered, only a load can be untimely. -/
theorem along_unloaded (idle : ∀ thread, system.gatherings thread = none)
    {actions : List Action} (unloaded : ∀ action ∈ actions, action.isLoad = false) :
    Runs.Along (GatheringSystem.step runtime) (Timely runtime) system
      (actions.map fun action => .act (.act action)) := by
  induction actions generalizing system with
  | nil => trivial
  | cons action rest ih =>
      refine ⟨⟨fun _ _ same => (by cases same), fun thread gathering gathers => ?_, ?_⟩,
        ih idle ?_⟩
      · rw [idle thread] at gathers
        cases gathers
      · intro operation given loads
        cases given
        have kept := unloaded _ List.mem_cons_self
        rw [Action.isLoad, loads] at kept
        cases kept
      · exact fun other member => unloaded other (List.mem_cons_of_mem _ member)

/-- The sections of a gathering are timely among themselves. -/
theorem along_advances (registered : system.engine.Registered) (thread : Nat)
    (store : StoreAnswers) (count : Nat) :
    Runs.Along (GatheringSystem.step runtime) (Timely runtime) system
      (List.replicate count (.advance thread store)) := by
  induction count generalizing system with
  | zero => trivial
  | succ count ih =>
      have kept : (system.step runtime (.advance thread store)).engine.records =
            system.engine.records ∧
          (system.step runtime (.advance thread store)).engine.devices =
            system.engine.devices := by
        simp only [GatheringSystem.step]
        split
        · exact ⟨rfl, rfl⟩
        · next gathering _ => cases gathering <;> exact ⟨rfl, rfl⟩
      refine ⟨⟨fun _ _ _ _ => registered, ?_, fun _ loaded => (by cases loaded)⟩, ih ?_⟩
      · intro _ _ _ port record found introduced
        rw [kept.1] at found
        exact (introduced record found ⟨rfl, rfl⟩).elim
      · rw [EngineImpl.Registered, kept.1, kept.2]
        exact registered

theorem gather_engine (thread : Nat) :
    (system.step runtime (.gather thread)).engine = system.engine := by
  simp only [GatheringSystem.step]
  split <;> rfl

theorem timely_gather (thread : Nat) : Timely runtime system (.gather thread) := by
  refine ⟨fun _ _ other => (by cases other), fun _ _ _ port record found introduced => ?_,
    fun _ other => (by cases other)⟩
  rw [gather_engine] at found
  exact (introduced record found ⟨rfl, rfl⟩).elim

end Undisturbed

namespace PassedGathering

def runtime : Runtime :=
  { Fixture.runtime with
    config := { Fixture.engineConfig "coordinator" "ports.pf" .first with
      persistence := .manual } }

def port : PortId := "syn-sw1-p01"

def profile : PortProfile where
  id := "uplink"
  generation := .first
  name := "uplink"
  provenance := { kind := .operator, epoch := .first }

def envelope (attempt : MutationAttemptId) : MutationEnvelope :=
  Fixture.envelope port "agent-a" "boot-a" attempt .first

def claimed : List Action :=
  .operate (Fixture.bind port "bind-1") ::
    Fixture.complete 0 (Fixture.claim (envelope "claim-1") "owner-a") {}

/-- A first configuration that binds the profile, which is defined just before. -/
def configured : List Action :=
  .operate (.defineProfile profile) ::
    Fixture.complete 0
      (.configure
        { envelope := envelope "configure-1"
          configuration :=
            { Fixture.makeConfiguration port with
              profile := { bound := true, id := profile.id, generation := profile.generation } } })
      Fixture.verified

def others (actions : List Action) : List GatheringAction :=
  actions.map fun action => .act (.act action)

/-- A gathering of the tables, and of the records once the other actions are through. -/
def gatherAround (between : List Action) : List GatheringAction :=
  .gather 1 :: List.replicate 2 (.advance 1 {}) ++ others between ++ [.advance 1 {}]

def gathered (actions : List GatheringAction) : Option PersistedState :=
  match (Runs.run (GatheringSystem.step runtime) (.initial runtime) actions).gatherings 1 with
  | some (.write gathered) => some gathered
  | _ => none

theorem gathered_eq_some {actions : List GatheringAction} {container : PersistedState}
    (complete : gathered actions = some container) :
    (Runs.run (GatheringSystem.step runtime) (.initial runtime) actions).gatherings 1 =
      some (.write container) := by
  unfold gathered at complete
  split at complete
  · next found =>
      cases complete
      exact found
  · cases complete

set_option maxRecDepth 100000 in
/-- A gathering that nothing interrupts is closed. -/
theorem uninterrupted_closed :
    Runs.Throughout (GatheringSystem.step runtime) GatheringSystem.GathersClosed
      (.initial runtime) (others claimed ++ gatherAround []) := by
  have registered : (Runs.run (GatheringSystem.step runtime) (.initial runtime)
      (others claimed)).engine.Registered := by
    have every : ((Runs.run (GatheringSystem.step runtime) (.initial runtime)
        (others claimed)).engine.records.toList.all fun entry =>
          ((Runs.run (GatheringSystem.step runtime) (.initial runtime)
            (others claimed)).engine.devices[entry.2.parentDevice]?).isSome) = true := by
      decide +kernel
    intro port record found
    exact List.all_eq_true.mp every (port, record) (OrderedMap.mem_toList.mpr found)
  refine gathers_closed runtime _ (Runs.along_append.mpr ⟨along_unloaded ?_ ?_, ?_⟩)
  · exact fun _ => rfl
  · decide
  · have gathering : (GatheringSystem.step runtime
        (Runs.run (GatheringSystem.step runtime) (.initial runtime) (others claimed))
        (.gather 1)).engine.Registered := by
      rw [gather_engine]
      exact registered
    exact ⟨timely_gather 1, along_advances gathering 1 {} 3⟩

set_option maxRecDepth 100000 in
/-- The container has the binding of the profile and not the profile. -/
theorem unlisted_profile :
    ¬Runs.Throughout (GatheringSystem.step runtime) GatheringSystem.GathersClosed
      (.initial runtime) (others claimed ++ gatherAround configured) := by
  have dangling : ((gathered (others claimed ++ gatherAround configured)).any fun container =>
      container.profiles.isEmpty &&
        container.records.any fun record => record.boundProfile?.isSome) = true := by
    decide +kernel
  intro throughout
  obtain ⟨container, complete, outside⟩ := (Option.any_eq_true _ _).mp dangling
  rw [Bool.and_eq_true, List.isEmpty_iff, List.any_eq_true] at outside
  obtain ⟨unlisted, record, member, bound⟩ := outside
  obtain ⟨reference, bound⟩ := Option.isSome_iff_exists.mp bound
  have closed := (throughout.last 1 container (gathered_eq_some complete)).closed
  obtain ⟨_, listed, _⟩ := closed.profiles record member reference bound
  rw [unlisted] at listed
  cases listed

end PassedGathering

end PortFabric
