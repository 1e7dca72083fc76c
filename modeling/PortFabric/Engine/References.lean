import PortFabric.Engine.BindingProperties
import PortFabric.ProfileProperties

/-!
# References

The profile generation a record binds, and the registry that defines it: a
plan refers to defined generations only, and a registry that is not replaced
keeps what it defines.
-/

set_option autoImplicit false

namespace PortFabric

open Checks

/-- The profile generation that the committed configuration binds. -/
def PortRecord.boundProfile? (record : PortRecord) :
    Option (PortProfileId × PortProfileGeneration) :=
  record.configuration.bind fun configuration =>
    if configuration.profile.bound then
      some (configuration.profile.id, configuration.profile.generation)
    else none

section Restores

variable {registry : ProfileRegistry} {profiles : List PortProfile}

theorem restoreProfiles_keyed (keyed : registry.Keyed) :
    (restoreProfiles registry profiles).1.Keyed := by
  induction profiles generalizing registry with
  | nil => exact keyed
  | cons profile rest ih =>
      unfold restoreProfiles
      dsimp only
      split
      · exact ih (keyed.define profile)
      · exact keyed.define profile

theorem restoreProfiles_kept {reference : PortProfileId × PortProfileGeneration}
    (defined : registry.Defines reference) :
    (restoreProfiles registry profiles).1.Defines reference := by
  induction profiles generalizing registry with
  | nil => exact defined
  | cons profile rest ih =>
      unfold restoreProfiles
      dsimp only
      split
      · exact ih (defined.define profile)
      · exact defined.define profile

/-- A complete restore defines every profile of the container. -/
theorem restoreProfiles_defines {profile : PortProfile}
    (complete : (restoreProfiles registry profiles).2 = none) (member : profile ∈ profiles) :
    (restoreProfiles registry profiles).1.Defines (profile.id, profile.generation) := by
  induction profiles generalizing registry with
  | nil => cases member
  | cons first rest ih =>
      unfold restoreProfiles at complete ⊢
      dsimp only at complete ⊢
      split at complete
      · next accepted =>
          simp only [accepted, if_true]
          obtain rfl | later := List.mem_cons.mp member
          · exact restoreProfiles_kept (ProfileRegistry.define_defines accepted)
          · exact ih complete later
      · cases complete

end Restores

section Records

variable {record other : PortRecord} {profiles : ProfileRegistry}

/-- The registry defines what the record binds. -/
def PortRecord.DefinedBy (record : PortRecord) (profiles : ProfileRegistry) : Prop :=
  ∀ reference ∈ record.boundProfile?, profiles.Defines reference

theorem PortRecord.boundProfile_congr
    (same : other.configuration.map PortConfiguration.profile =
      record.configuration.map PortConfiguration.profile) :
    other.boundProfile? = record.boundProfile? := by
  have factored (record : PortRecord) : record.boundProfile? =
      (record.configuration.map PortConfiguration.profile).bind fun profile =>
        if profile.bound then some (profile.id, profile.generation) else none := by
    rw [boundProfile?, Option.bind_map]
    rfl
  rw [factored, factored, same]

theorem PortRecord.DefinedBy.congr (defined : record.DefinedBy profiles)
    (same : other.boundProfile? = record.boundProfile?) : other.DefinedBy profiles := by
  rw [DefinedBy, same]
  exact defined

theorem PortRecord.definedBy_of_configuration {configuration : PortConfiguration}
    (configured : record.configuration = some configuration)
    (defined : configuration.profile.defined profiles = true) : record.DefinedBy profiles := by
  intro reference bound
  rw [boundProfile?, configured, Option.bind_some] at bound
  split at bound
  · next binds =>
      cases bound
      unfold ProfileRegistry.Defines
      simpa [ProfileBinding.defined, binds] using defined
  · cases bound

theorem boundRecord_boundProfile (request : PortBindingRequest)
    (evidence : Option CapabilityBinding) : (boundRecord request evidence).boundProfile? = none :=
  rfl

end Records

section Plans

variable {mutation : Mutation} {input : MutationBuildInput} {plan : MutationPlan}

/-- A mutation that writes no new configuration keeps the bound profile. -/
theorem Proposal.boundProfile (proposed : Proposal mutation input plan)
    (kept : needsConfigurationExpectation mutation.kind = false) :
    plan.next.boundProfile? = input.current.boundProfile? := by
  by_cases reports : writesConfiguration mutation.kind = false
  · apply PortRecord.boundProfile_congr
    rw [(proposed.reported reports).configuration]
  cases proposed with
  | configured requested =>
      subst requested
      cases kept
  | replaced requested =>
      obtain same | same := requested
      · rw [same] at kept
        cases kept
      · rw [same] at kept
        cases kept
  | reconciled requested =>
      subst requested
      cases kept
  | administered _ present _ _ _ next =>
      rw [next]
      apply PortRecord.boundProfile_congr
      rw [present]
      rfl
  | rebound requested | evidenced requested | observed requested =>
      subst requested
      exact absurd rfl reports
  | @fenced _ _ _ retire requested =>
      cases retire <;> exact absurd (requested ▸ rfl) reports
  | reowned requested =>
      rcases requested with same | same | same <;> exact absurd (same ▸ rfl) reports

theorem assignedProfile_defined {request : ProfileRequest} {committed assigned : PortConfiguration}
    (changed : assignedProfile input request committed = .ok assigned) :
    assigned.profile.defined input.profiles = true := by
  unfold assignedProfile at changed
  split at changed
  · simp only [bind_eq_ok, pure_eq_ok] at changed
    obtain ⟨_, _, rfl⟩ := changed
    rfl
  · simp only [bind_eq_ok, demand_eq_ok, pure_eq_ok] at changed
    obtain ⟨profile, found, rfl⟩ := changed
    simp [ProfileBinding.defined, found]

/-- What a plan binds is defined: the builders look new bindings up. -/
theorem Mutation.build_defined (built : mutation.build input = .ok plan)
    (known : input.current.DefinedBy input.profiles) : plan.next.DefinedBy input.profiles := by
  have proposed := Mutation.build_proposal built
  cases mutation with
  | configure request =>
      simp only [build, buildConfigure, bind_eq_ok, rejectIf_eq_ok, demand_eq_ok,
        rejectInvalid_eq_ok, pure_eq_ok] at built
      obtain ⟨_, _, _, _, _, _, _, _, _, _, _, _, _, _, _, defined, _, _, rfl⟩ := built
      exact PortRecord.definedBy_of_configuration rfl (by simpa using defined)
  | reconfigure request =>
      simp only [build, buildReconfigure, bind_eq_ok, rejectIf_eq_ok, demand_eq_ok,
        dereference_eq_ok, rejectInvalid_eq_ok, pure_eq_ok] at built
      obtain ⟨_, _, _, _, _, _, _, _, _, _, _, _, _, defined, _, _, _, _, rfl⟩ := built
      exact PortRecord.definedBy_of_configuration rfl (by simpa using defined)
  | assignProfile request =>
      simp only [build, buildAssignProfile, bind_eq_ok, rejectIf_eq_ok, demand_eq_ok,
        dereference_eq_ok, rejectInvalid_eq_ok, pure_eq_ok] at built
      obtain ⟨_, _, _, _, assigned, changed, _, _, _, _, _, _, rfl⟩ := built
      have defined := assignedProfile_defined changed
      exact PortRecord.definedBy_of_configuration rfl defined
  | reconcile request =>
      simp only [build, buildReconcile, bind_eq_ok, rejectIf_eq_ok, demand_eq_ok,
        rejectInvalid_eq_ok, pure_eq_ok] at built
      obtain ⟨_, _, _, _, _, _, _, defined, _, _, _, _, rfl⟩ := built
      exact PortRecord.definedBy_of_configuration rfl (by simpa using defined)
  | _ => exact known.congr (proposed.boundProfile rfl)

end Plans

section Tables

variable {runtime : Runtime} {answers : MutationAnswers} {impl : EngineImpl}

/-- Profiles and devices are stored under their own identifiers. -/
structure EngineImpl.Keyed (impl : EngineImpl) : Prop where
  profiles : impl.profiles.Keyed
  devices : OrderedMap.Every (fun device (binding : DeviceBinding) => binding.device = device)
    impl.devices

/-- The registry keeps what it defines. -/
def EngineImpl.KeepsProfiles (before after : EngineImpl) : Prop :=
  ∀ reference, before.profiles.Defines reference → after.profiles.Defines reference

theorem EngineImpl.Keyed.congr {other : EngineImpl} (keyed : impl.Keyed)
    (profiles : other.profiles = impl.profiles) (devices : other.devices = impl.devices) :
    other.Keyed :=
  ⟨profiles ▸ keyed.profiles, devices ▸ keyed.devices⟩

variable (runtime answers impl) in
theorem Flight.advance_registries (flight : Flight) :
    (flight.advance runtime answers impl).1.profiles = impl.profiles ∧
      (flight.advance runtime answers impl).1.devices = impl.devices := by
  obtain same | ⟨mutation, _, same⟩ | ⟨_, _, _, _, same⟩ | same :=
    flight.advance_cases runtime answers impl
  · rw [same]
    exact ⟨rfl, rfl⟩
  · obtain ⟨_, checked⟩ := EngineImpl.checkAuthority_frame runtime impl mutation.authority
    rw [same, EngineImpl.authorised, checked]
    exact ⟨rfl, rfl⟩
  · rw [same]
    exact ⟨rfl, rfl⟩
  · obtain ⟨_, persisted⟩ := EngineImpl.persistLockedState_eq runtime answers.store impl
    rw [same, persisted]
    exact ⟨rfl, rfl⟩

theorem bindDevice_keyed {request : PortBindingRequest} {record : PortRecord}
    (keyed : impl.Keyed) : (bindDevice runtime impl request record).1.Keyed := by
  unfold bindDevice
  dsimp only
  split
  · split
    · exact keyed
    · exact ⟨keyed.profiles, OrderedMap.Every.insert keyed.devices rfl⟩
  · next existing found =>
      split
      · exact ⟨keyed.profiles,
          OrderedMap.Every.insert keyed.devices (keyed.devices _ existing found)⟩
      · split
        · exact ⟨keyed.profiles, keyed.devices⟩
        · exact keyed

theorem bindDevice_profiles {request : PortBindingRequest} {record : PortRecord} :
    (bindDevice runtime impl request record).1.profiles = impl.profiles := by
  obtain ⟨_, _, _, same, _⟩ := bindDevice_frame runtime impl request record
  rw [same]

variable (runtime answers impl) in
theorem bindPort_tables (request : PortBindingRequest) :
    (PortFabricEngine.bindPort runtime impl request answers).1.profiles = impl.profiles ∧
      (impl.Keyed → (PortFabricEngine.bindPort runtime impl request answers).1.Keyed) := by
  unfold PortFabricEngine.bindPort
  split
  · exact ⟨rfl, id⟩
  · dsimp only
    split
    · exact ⟨rfl, id⟩
    · next inserted stored =>
        obtain ⟨_, _, same⟩ := insertBinding_ok stored
        have profiles : (bindDevice runtime inserted request (boundRecord request
            (probeCapabilities runtime impl request answers.provider))).1.profiles =
              inserted.profiles := bindDevice_profiles
        have keyed (before : impl.Keyed) : (bindDevice runtime inserted request
            (boundRecord request
              (probeCapabilities runtime impl request answers.provider))).1.Keyed :=
          bindDevice_keyed (before.congr (by rw [same]) (by rw [same]))
        have kept : inserted.profiles = impl.profiles := by rw [same]
        split
        · next settled result answered =>
            rw [answered] at profiles keyed
            exact ⟨profiles.trans kept, keyed⟩
        · next settled answered =>
            rw [answered] at profiles keyed
            obtain ⟨_, persisted⟩ :=
              EngineImpl.persistLockedState_eq runtime answers.store settled
            rw [persisted]
            exact ⟨profiles.trans kept, fun before => (keyed before).congr rfl rfl⟩

theorem registerDevice_keyed {device : DeviceId} {generation : DeviceGeneration} {source : Text}
    (keyed : impl.Keyed) :
    (PortFabricEngine.registerDevice runtime impl device generation source).1.Keyed := by
  have added (binding : DeviceBinding) (own : binding.device = device) :
      ({ impl with devices := impl.devices.insert device binding } : EngineImpl).Keyed :=
    ⟨keyed.profiles, OrderedMap.Every.insert keyed.devices own⟩
  unfold PortFabricEngine.registerDevice
  dsimp only
  split
  · exact keyed
  split
  · exact keyed
  split
  · next existing found =>
      split
      · exact keyed
      split
      · exact keyed
      split
      · exact keyed
      · exact added _ (keyed.devices _ existing found)
  · split
    · exact keyed
    · exact added _ rfl

/-- What an operation outside the pipeline and recovery does to the tables. -/
theorem perform_tables {operation : Operation}
    (outside : ∀ mutation answers, operation ≠ .mutate mutation answers)
    (unloaded : operation.isLoad = false) :
    impl.KeepsProfiles (impl.perform runtime operation) ∧
      (impl.Keyed → (impl.perform runtime operation).Keyed) := by
  have unchanged {after : EngineImpl} (profiles : after.profiles = impl.profiles)
      (devices : after.devices = impl.devices) :
      impl.KeepsProfiles after ∧ (impl.Keyed → after.Keyed) :=
    ⟨fun _ defined => profiles ▸ defined, fun keyed => keyed.congr profiles devices⟩
  cases operation with
  | mutate mutation answers => exact absurd rfl (outside mutation answers)
  | load container => cases unloaded
  | defineProfile profile =>
      exact ⟨fun _ defined => defined.define profile,
        fun keyed => ⟨keyed.profiles.define profile, keyed.devices⟩⟩
  | registerDevice device generation source =>
      obtain ⟨_, same⟩ := registerDevice_frame runtime impl device generation source
      refine ⟨fun _ defined => ?_, registerDevice_keyed⟩
      rw [EngineImpl.perform, same]
      exact defined
  | bindPort request answers =>
      obtain ⟨profiles, keyed⟩ := bindPort_tables runtime answers impl request
      exact ⟨fun _ defined => by rwa [EngineImpl.perform, profiles], keyed⟩
  | beginEpoch =>
      rw [EngineImpl.perform, PortFabricEngine.beginEpoch]
      repeat' split
      all_goals exact unchanged rfl rfl
  | fencePublisher publisher boot =>
      rw [EngineImpl.perform, PortFabricEngine.fencePublisher]
      repeat' split
      all_goals exact unchanged rfl rfl
  | registerPublisher publisher boot epoch =>
      obtain ⟨_, same⟩ := registerPublisher_frame impl publisher boot epoch
      rw [EngineImpl.perform, same]
      exact unchanged rfl rfl
  | setTopologyGeneration generation =>
      obtain ⟨_, same⟩ := setTopologyGeneration_frame impl generation
      rw [EngineImpl.perform, same]
      exact unchanged rfl rfl
  | save store =>
      obtain ⟨_, same⟩ := save_frame runtime impl store
      rw [EngineImpl.perform, same]
      exact unchanged rfl rfl
  | shutdown => exact unchanged rfl rfl

theorem recoverAuthority_keyed {state : PersistedState} {epoch : CoordinatorEpoch}
    (profiles : impl.profiles.Keyed) : (impl.recoverAuthority state epoch).Keyed := by
  have every (bindings : List DeviceBinding) {devices : Std.ExtTreeMap DeviceId DeviceBinding}
      (keyed : OrderedMap.Every (fun device (binding : DeviceBinding) => binding.device = device)
        devices) :
      OrderedMap.Every (fun device (binding : DeviceBinding) => binding.device = device)
        (bindings.foldl (fun devices binding => devices.insert binding.device binding)
          devices) := by
    induction bindings generalizing devices with
    | nil => exact keyed
    | cons binding rest ih => exact ih (OrderedMap.Every.insert keyed rfl)
  exact ⟨profiles, every state.devices OrderedMap.Every.empty⟩

theorem load_keyed {container : Except Outcome PersistedState} (keyed : impl.Keyed) :
    (PortFabricEngine.load runtime impl container).1.Keyed := by
  have restored (state : PersistedState) :
      (restoreProfiles ∅ (state.profiles.insertionSort profileBefore)).1.Keyed :=
    restoreProfiles_keyed ProfileRegistry.Keyed.empty
  have recovered {base : EngineImpl} (state : PersistedState) (keyed : base.Keyed) :
      (base.recoverRecords state).1.Keyed := by
    obtain ⟨_, _, same⟩ := recoverRecords_frame base state
    rw [same]
    exact keyed.congr rfl rfl
  unfold PortFabricEngine.load
  split
  · exact keyed
  split
  · exact keyed
  · next state =>
      split
      · exact keyed
      · split
        · next profiles failure stopped =>
            have whole := restored state
            rw [stopped] at whole
            exact ⟨whole, keyed.devices⟩
        · next profiles finished =>
            have whole := restored state
            rw [finished] at whole
            dsimp only
            split
            · split
              · exact ⟨whole, keyed.devices⟩
              · exact recovered state (recoverAuthority_keyed whole)
            · exact recovered state (recoverAuthority_keyed whole)

end Tables

section Flights

variable {runtime : Runtime} {answers : MutationAnswers} {impl after : EngineImpl}
  {flight next : Flight} {profiles : ProfileRegistry}

/-- Every record binds a profile generation that the registry defines, or none. -/
def EngineImpl.RecordsDefined (impl : EngineImpl) : Prop :=
  OrderedMap.Every (fun _ record => record.DefinedBy impl.profiles) impl.records

/-- The record a flight proposes, when it has prepared one. -/
def Flight.proposed? : Flight → Option PortRecord
  | .apply _ _ proposal => some proposal.next
  | .conclude _ _ _ (.commit proposal evidence settled) =>
      some (EngineImpl.committedRecord proposal evidence settled)
  | _ => none

/-- The registry defines what the snapshot and the proposal of the flight bind. -/
structure Flight.DefinedBy (flight : Flight) (profiles : ProfileRegistry) : Prop where
  snapshot : ∀ snapshot, flight.snapshot? = some snapshot → snapshot.DefinedBy profiles
  proposed : ∀ proposed, flight.proposed? = some proposed → proposed.DefinedBy profiles

theorem PortRecord.DefinedBy.kept {record : PortRecord} {before after : EngineImpl}
    (defined : record.DefinedBy before.profiles) (kept : before.KeepsProfiles after) :
    record.DefinedBy after.profiles :=
  fun reference bound => kept reference (defined reference bound)

theorem Flight.DefinedBy.kept {before after : EngineImpl}
    (defined : flight.DefinedBy before.profiles) (kept : before.KeepsProfiles after) :
    flight.DefinedBy after.profiles :=
  ⟨fun snapshot carried => (defined.snapshot snapshot carried).kept kept,
    fun proposed carried => (defined.proposed proposed carried).kept kept⟩

theorem Flight.DefinedBy.advance (defined : flight.DefinedBy impl.profiles)
    (records : impl.RecordsDefined)
    (advanced : flight.advance runtime answers impl = (after, .ok next)) :
    next.DefinedBy impl.profiles := by
  obtain ⟨same, _, origin⟩ := Flight.advance_next advanced
  refine ⟨fun snapshot carried => ?_, fun proposed carried => ?_⟩
  · obtain before | ⟨found, _⟩ := origin snapshot carried
    · exact defined.snapshot snapshot before
    · exact records _ _ found
  · cases flight with
    | plan mutation snapshot context =>
        simp only [Flight.advance, Prod.mk.injEq, bind_eq_ok, pure_eq_ok] at advanced
        obtain ⟨_, proposal, prepared, rfl⟩ := advanced
        cases carried
        obtain ⟨capability, draft, built, _, rfl⟩ := preparePlan_ok prepared
        have planned : draft.next.DefinedBy impl.profiles :=
          Mutation.build_defined built (defined.snapshot snapshot rfl)
        exact planned.congr rfl
    | apply mutation snapshot proposal =>
        cases advanced
        have planned := defined.proposed proposal.next rfl
        simp only [Flight.proposed?] at carried
        split at carried
        · next concluded => cases concluded
        · next _ _ _ committed evidence settled concluded =>
            cases carried
            injection concluded with _ _ _ decided
            obtain ⟨_, _, _, final, _⟩ := (applyPlan_commit decided).final
            rw [final]
            exact planned.congr rfl
        · cases carried
    | authority mutation =>
        simp only [Flight.advance, Prod.mk.injEq, bind_eq_ok, pure_eq_ok] at advanced
        obtain ⟨_, _, _, rfl⟩ := advanced
        cases carried
    | lookup mutation =>
        simp only [Flight.advance, Prod.mk.injEq, bind_eq_ok, pure_eq_ok] at advanced
        obtain ⟨_, _, _, rfl⟩ := advanced
        cases carried
    | topology mutation snapshot =>
        simp only [Flight.advance, Prod.mk.injEq, bind_eq_ok, pure_eq_ok] at advanced
        obtain ⟨_, _, _, _, _, rfl⟩ := advanced
        cases carried
    | context mutation snapshot =>
        simp only [Flight.advance, Prod.mk.injEq, bind_eq_ok, pure_eq_ok] at advanced
        obtain ⟨_, _, _, rfl⟩ := advanced
        cases carried
    | conclude mutation snapshot applied decision =>
        obtain ⟨_, rfl⟩ := Flight.conclude_next advanced
        cases carried
    | persist mutation settlement => cases settlement <;> cases advanced

/-- A section keeps the records defined. -/
theorem Flight.advance_recordsDefined (records : impl.RecordsDefined)
    (defined : flight.DefinedBy impl.profiles) :
    (flight.advance runtime answers impl).1.RecordsDefined := by
  have registry := (flight.advance_registries runtime answers impl).1
  have effect := flight.advance_effect runtime answers impl
  generalize (flight.advance runtime answers impl).1 = after at registry effect ⊢
  rw [EngineImpl.RecordsDefined, registry]
  cases effect with
  | kept same =>
      rw [same]
      exact records
  | committed stored =>
      obtain ⟨_, _, _, _, _, _, rfl⟩ := EngineImpl.commitRecord_ok stored
      exact OrderedMap.Every.insert records (defined.proposed _ rfl)
  | @doubted mutation _ before _ _ _ _ _ found =>
      refine OrderedMap.Every.insert records ?_
      apply (records _ _ found).congr
      apply PortRecord.boundProfile_congr
      rw [PortRecord.uncertain_configuration]

end Flights

section Systems

variable {runtime : Runtime} {system : System} {action : Action}

/-- The registry defines what the records and the mutations in flight bind. -/
structure System.Defined (system : System) : Prop where
  keyed : system.engine.Keyed
  records : system.engine.RecordsDefined
  flights : ∀ thread flight, system.flights thread = some flight →
    flight.DefinedBy system.engine.profiles

theorem EngineImpl.RecordsDefined.perform {impl : EngineImpl} {operation : Operation}
    (records : impl.RecordsDefined)
    (outside : ∀ mutation answers, operation ≠ .mutate mutation answers)
    (unloaded : operation.isLoad = false) : (impl.perform runtime operation).RecordsDefined := by
  have kept : impl.KeepsProfiles (impl.perform runtime operation) :=
    (perform_tables outside unloaded).1
  have effect : RecordsEffect operation impl.records (impl.perform runtime operation).records :=
    perform_records outside unloaded
  have defined : OrderedMap.Every
      (fun _ record => record.DefinedBy (impl.perform runtime operation).profiles) impl.records :=
    records.imp fun _ _ before => before.kept kept
  rw [EngineImpl.RecordsDefined]
  generalize (impl.perform runtime operation).records = stored at effect ⊢
  cases effect with
  | unchanged => exact defined
  | @bound request _ evidence _ _ _ _ =>
      refine OrderedMap.Every.insert defined fun reference bound => ?_
      rw [boundRecord_boundProfile] at bound
      cases bound
  | @released reason detail held _ =>
      refine defined.map fun _ record before => ?_
      split
      · exact before.congr rfl
      · exact before

/-- A load leaves every reference of the records and of the mutations in flight defined. -/
def System.LoadsDefined (runtime : Runtime) (system : System) (operation : Operation) : Prop :=
  operation.isLoad = true →
    (system.engine.perform runtime operation).RecordsDefined ∧
      ∀ thread flight, system.flights thread = some flight →
        flight.DefinedBy (system.engine.perform runtime operation).profiles

theorem System.Defined.operate {operation : Operation} (defined : system.Defined)
    (loads : system.LoadsDefined runtime operation)
    (outside : ∀ mutation answers, operation ≠ .mutate mutation answers) :
    (system.step runtime (.operate operation)).Defined := by
  have flights : (system.step runtime (.operate operation)).flights = system.flights := by
    cases operation <;> rfl
  have engine : (system.step runtime (.operate operation)).engine =
      system.engine.perform runtime operation := System.step_operate outside
  cases unloaded : operation.isLoad with
  | true =>
      obtain ⟨records, flying⟩ := loads unloaded
      refine ⟨?_, engine ▸ records, fun thread flight found => ?_⟩
      · rw [engine]
        cases operation with
        | load container => exact load_keyed defined.keyed
        | _ => cases unloaded
      · rw [engine]
        rw [flights] at found
        exact flying thread flight found
  | false =>
      have keyed : (system.engine.perform runtime operation).Keyed :=
        (perform_tables outside unloaded).2 defined.keyed
      refine ⟨engine ▸ keyed, engine ▸ defined.records.perform outside unloaded,
        fun thread flight found => ?_⟩
      rw [engine]
      rw [flights] at found
      exact (defined.flights thread flight found).kept (perform_tables outside unloaded).1

theorem System.Defined.step (defined : system.Defined)
    (loads : ∀ operation, action = .operate operation → system.LoadsDefined runtime operation) :
    (system.step runtime action).Defined := by
  cases action with
  | operate operation =>
      cases operation with
      | mutate mutation answers => exact defined
      | _ => exact defined.operate (loads _ rfl) (by simp)
  | start starter mutation =>
      have engine : (system.step runtime (.start starter mutation)).engine = system.engine := by
        simp only [System.step]
        split <;> rfl
      refine ⟨engine ▸ defined.keyed, engine ▸ defined.records, fun thread flight flying => ?_⟩
      rw [engine]
      obtain ⟨kept, _⟩ | ⟨_, _, rfl, _⟩ | ⟨_, _, _, moved, _⟩ := System.step_flights flying
      · exact defined.flights thread flight kept
      · exact ⟨fun _ carried => (by cases carried), fun _ carried => (by cases carried)⟩
      · cases moved
  | advance mover answers =>
      cases found : system.flights mover with
      | none =>
          have same : system.step runtime (.advance mover answers) = system := by
            simp only [System.step, found]
          rw [same]
          exact defined
      | some moving =>
          have engine : (system.step runtime (.advance mover answers)).engine =
              (moving.advance runtime answers system.engine).1 := by
            simp only [System.step, found]
            rfl
          obtain ⟨profiles, devices⟩ :=
            moving.advance_registries runtime answers system.engine
          have known := defined.flights mover moving found
          refine ⟨?_, ?_, fun thread flight flying => ?_⟩
          · rw [engine]
            exact defined.keyed.congr profiles devices
          · rw [engine]
            exact Flight.advance_recordsDefined defined.records known
          · rw [engine, profiles]
            obtain ⟨kept, _⟩ | ⟨_, started, _⟩ | ⟨_, before, _, moved, flew, went⟩ :=
              System.step_flights flying
            · exact defined.flights thread flight kept
            · cases started
            · cases moved
              cases found.symm.trans flew
              exact known.advance defined.records went

end Systems

end PortFabric
