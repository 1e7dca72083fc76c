import PortFabric.Engine.CommitProperties
import PortFabric.Engine.Operation

/-!
# Properties of operations

What each operation outside the mutation pipeline does to the records.
-/

set_option autoImplicit false

namespace PortFabric

open PortFabricEngine

/-- The status texts of a release fit their fields. -/
structure StatusTexts (reason detail : Text) : Prop where
  reason : validateText reason maxNameLength = .ok ()
  detail : validateText detail maxDescriptionLength = .ok ()

/-- How an operation outside the pipeline can change the records. -/
inductive RecordsEffect (operation : Operation) (before : RecordMap) : RecordMap → Prop where
  | unchanged : RecordsEffect operation before before
  | bound {request : PortBindingRequest} {answers : MutationAnswers}
      {evidence : Option CapabilityBinding}
      (requested : operation = .bindPort request answers)
      (absent : before[request.port]? = none)
      (named : request.attempt.valid = true)
      (validated : (boundRecord request evidence).validate = .ok ()) :
      RecordsEffect operation before
        (before.insert request.port (boundRecord request evidence))
  | released {reason detail : Text} (held : PortRecord → Bool)
      (texts : StatusTexts reason detail) :
      RecordsEffect operation before
        (before.map fun _ record => if held record then record.released reason detail else record)

/-- The ownership of every record is one of a record before. -/
def InheritsOwnership (before after : RecordMap) : Prop :=
  ∀ (port : PortId) (record : PortRecord) (ownership : PortOwnership),
    after[port]? = some record → record.ownership = some ownership →
      ∃ source : PortRecord, before[port]? = some source ∧ source.ownership = some ownership

theorem RecordsEffect.inherits {operation : Operation} {before after : RecordMap}
    (effect : RecordsEffect operation before after) :
    InheritsOwnership before after := by
  intro port record ownership found owned
  cases effect with
  | unchanged => exact ⟨record, found, owned⟩
  | bound requested absent named validated =>
      rw [OrderedMap.lookup_insert] at found
      split at found
      · cases found
        cases owned
      · exact ⟨record, found, owned⟩
  | released held texts =>
      rw [OrderedMap.lookup_map] at found
      obtain ⟨source, present, rfl⟩ := Option.map_eq_some_iff.mp found
      split at owned
      · cases owned
      · exact ⟨source, present, owned⟩

section Binding

variable {runtime : Runtime} {impl : EngineImpl} {request : PortBindingRequest}
  {evidence : Option CapabilityBinding}

theorem insertBinding_ok {inserted : EngineImpl}
    (stored : insertBinding runtime impl request evidence = .ok inserted) :
    impl.records[request.port]? = none ∧ (boundRecord request evidence).validate = .ok () ∧
      inserted =
        { impl with
          records := impl.records.insert request.port (boundRecord request evidence)
          indexes := impl.indexes.indexAdd (boundRecord request evidence)
          generation := impl.generation.advance } := by
  unfold insertBinding at stored
  split at stored
  · cases stored
  · next absent =>
      split at stored
      · cases stored
      · dsimp only at stored
        split at stored
        · cases stored
        · next validated =>
            cases stored
            exact ⟨absent, validated, rfl⟩

/-- The device section keeps the records, or erases the one just inserted. -/
theorem bindDevice_frame (runtime : Runtime) (impl : EngineImpl) (request : PortBindingRequest)
    (record : PortRecord) :
    ∃ devices records indexes,
      (bindDevice runtime impl request record).1 = { impl with devices, records, indexes } ∧
      (records = impl.records ∨ records = impl.records.erase request.port) := by
  unfold bindDevice
  dsimp only
  split
  · split
    · exact ⟨impl.devices, impl.records, impl.indexes, rfl, .inl rfl⟩
    · exact ⟨_, impl.records, impl.indexes, rfl, .inl rfl⟩
  · split
    · exact ⟨_, impl.records, impl.indexes, rfl, .inl rfl⟩
    · split
      · exact ⟨impl.devices, _, _, rfl, .inr rfl⟩
      · exact ⟨impl.devices, impl.records, impl.indexes, rfl, .inl rfl⟩

theorem bindPort_effect (runtime : Runtime) (impl : EngineImpl) (request : PortBindingRequest)
    (answers : MutationAnswers) :
    RecordsEffect (.bindPort request answers) impl.records
        (bindPort runtime impl request answers).1.records ∧
      (bindPort runtime impl request answers).1.publishers = impl.publishers ∧
      (bindPort runtime impl request answers).1.epoch = impl.epoch := by
  unfold bindPort
  split
  · exact ⟨.unchanged, rfl, rfl⟩
  · next admitted =>
      have named : request.attempt.valid = true := by
        unfold admitBinding at admitted
        split at admitted
        · cases admitted
        · split at admitted
          · cases admitted
          · next complete =>
              simp only [Bool.or_eq_true, Bool.not_eq_true', not_or, Bool.not_eq_false] at complete
              exact complete.2
      dsimp only
      split
      · exact ⟨.unchanged, rfl, rfl⟩
      · next inserted stored =>
          obtain ⟨absent, validated, rfl⟩ := insertBinding_ok stored
          obtain ⟨devices, records, indexes, settled, kept⟩ :=
            bindDevice_frame runtime _ request
              (boundRecord request (probeCapabilities runtime impl request answers.provider))
          split
          · next after _ answered =>
              obtain rfl : after = _ := (congrArg Prod.fst answered).symm.trans settled
              rcases kept with rfl | rfl
              · exact ⟨.bound rfl absent named validated, rfl, rfl⟩
              · dsimp only
                rw [OrderedMap.erase_insert_of_absent absent]
                exact ⟨.unchanged, rfl, rfl⟩
          · next after answered =>
              obtain rfl : after = _ := (congrArg Prod.fst answered).symm.trans settled
              refine ⟨?_, by simp, by simp⟩
              rw [EngineImpl.persistLockedState_records]
              rcases kept with rfl | rfl
              · exact .bound rfl absent named validated
              · dsimp only
                rw [OrderedMap.erase_insert_of_absent absent]
                exact .unchanged

theorem bindPort_stamps (runtime : Runtime) (impl : EngineImpl) (request : PortBindingRequest)
    (answers : MutationAnswers) : impl.Stamps (bindPort runtime impl request answers).1 := by
  unfold bindPort
  split
  · exact .refl impl
  · dsimp only
    split
    · exact .refl impl
    · next inserted stored =>
        obtain ⟨_, _, rfl⟩ := insertBinding_ok stored
        obtain ⟨_, _, _, settled, _⟩ := bindDevice_frame runtime _ request
          (boundRecord request (probeCapabilities runtime impl request answers.provider))
        split
        · next after _ answered =>
            obtain rfl : after = _ := (congrArg Prod.fst answered).symm.trans settled
            exact .inr rfl
        · next after answered =>
            obtain rfl : after = _ := (congrArg Prod.fst answered).symm.trans settled
            refine .inr ?_
            rw [EngineImpl.persistLockedState_generation]

end Binding

section Restoring

/-- Every restored record is a recovered one that validates. -/
def Recovered (record : PortRecord) : Prop :=
  (∃ persisted : PortRecord, record = persisted.recovered) ∧ record.validate = .ok ()

theorem restoreRecords_recovered {records : RecordMap} {persisted : List PortRecord}
    (every : OrderedMap.Every (fun _ => Recovered) records) :
    OrderedMap.Every (fun _ => Recovered) (restoreRecords records persisted).1 := by
  induction persisted generalizing records with
  | nil => exact every
  | cons record rest ih =>
      unfold restoreRecords
      split
      · exact every
      · next validated =>
          apply ih
          intro port stored found
          rw [OrderedMap.lookup_insertIfNew] at found
          split at found
          · cases found
            exact ⟨⟨record, rfl⟩, validated⟩
          · exact every port stored found

theorem recoverRecords_frame (impl : EngineImpl) (state : PersistedState) :
    ∃ indexes generation,
      (impl.recoverRecords state).1 =
        { impl with records := (restoreRecords ∅ state.records).1, indexes, generation } := by
  unfold EngineImpl.recoverRecords
  split
  · next restored => exact ⟨impl.indexes, impl.generation, by rw [restored]⟩
  · next restored =>
      rw [restored]
      dsimp only
      split
      · split
        · exact ⟨_, _, rfl⟩
        · exact ⟨_, _, rfl⟩
      · exact ⟨_, _, rfl⟩

/-- A container took the place of the tables of the engine. -/
structure Loaded (impl after : EngineImpl) (state : PersistedState) : Prop where
  records : after.records = (restoreRecords ∅ state.records).1
  publishers : after.publishers = (impl.recoverAuthority state after.epoch).publishers
  epoch : after.epoch.valid = true
  later : impl.epoch ≤ after.epoch

theorem Loaded.recovered {impl after : EngineImpl} {state : PersistedState}
    (loaded : Loaded impl after state) : OrderedMap.Every (fun _ => Recovered) after.records := by
  rw [loaded.records]
  exact restoreRecords_recovered OrderedMap.Every.empty

private theorem loaded_recover (impl : EngineImpl) (profiles : ProfileRegistry)
    (state : PersistedState) {epoch : CoordinatorEpoch} (valid : epoch.valid = true)
    (later : impl.epoch ≤ epoch) :
    Loaded impl
      ((({ impl with profiles } : EngineImpl).recoverAuthority state epoch).recoverRecords state).1
      state := by
  obtain ⟨_, _, restored⟩ :=
    recoverRecords_frame (({ impl with profiles } : EngineImpl).recoverAuthority state epoch) state
  rw [restored]
  exact ⟨rfl, rfl, valid, later⟩

/-- The load reads this container and carries it out. -/
structure Recovers (runtime : Runtime) (impl : EngineImpl)
    (container : Except Outcome PersistedState) (state : PersistedState) : Prop where
  read : container = .ok state
  path : runtime.config.persistencePath.isEmpty = false
  accepted : EngineImpl.acceptContainer runtime.config state = .ok ()
  profiles : (restoreProfiles ∅ (state.profiles.insertionSort profileBefore)).2 = none
  epoch : impl.epoch ≤ state.epoch → state.epoch.exhaustible = false

/-- A load is carried out, or changes the profiles at most. -/
theorem load_effect (runtime : Runtime) (impl : EngineImpl)
    (container : Except Outcome PersistedState) :
    ((∀ state, ¬Recovers runtime impl container state) ∧
        ∃ profiles, (load runtime impl container).1 = { impl with profiles }) ∨
      ∃ state, Recovers runtime impl container state ∧
        Loaded impl (load runtime impl container).1 state := by
  unfold load
  split
  · next pathless =>
      exact .inl ⟨fun _ recovers => by simp [recovers.path] at pathless, impl.profiles, rfl⟩
  · next path =>
      have named : runtime.config.persistencePath.isEmpty = false := by simpa using path
      split
      · exact .inl ⟨fun _ recovers => (by cases recovers.read), impl.profiles, rfl⟩
      · next state =>
          split
          · next refused =>
              refine .inl ⟨fun _ recovers => ?_, impl.profiles, rfl⟩
              cases recovers.read
              have accepted := recovers.accepted
              rw [refused] at accepted
              cases accepted
          · next accepted =>
              split
              · next restored =>
                  refine .inl ⟨fun _ recovers => ?_, _, rfl⟩
                  cases recovers.read
                  have complete := recovers.profiles
                  rw [restored] at complete
                  cases complete
              · next profiles restored =>
                  have complete : (restoreProfiles ∅
                      (state.profiles.insertionSort profileBefore)).2 = none := by
                    rw [restored]
                  dsimp only
                  split
                  · next covered =>
                      split
                      · next full =>
                          refine .inl ⟨fun _ recovers => ?_, _, rfl⟩
                          cases recovers.read
                          simp [recovers.epoch covered] at full
                      · next room =>
                          refine .inr ⟨state,
                            ⟨rfl, named, accepted, complete, fun _ => by simpa using room⟩,
                            loaded_recover impl profiles state ?_ ?_⟩
                          · rw [← Generation.advance_eq_next]
                            exact Generation.valid_advance _
                          · exact Generation.le_trans covered (Generation.le_next _)
                  · next later =>
                      refine .inr ⟨state,
                        ⟨rfl, named, accepted, complete, fun covered => absurd covered later⟩,
                        loaded_recover impl profiles state ?_ (Generation.le_refl _)⟩
                      rw [Generation.valid_iff]
                      have : ¬impl.epoch.value ≤ state.epoch.value := later
                      omega

theorem load_records (runtime : Runtime) (impl : EngineImpl)
    (container : Except Outcome PersistedState) :
    (load runtime impl container).1.records = impl.records ∨
      OrderedMap.Every (fun _ => Recovered) (load runtime impl container).1.records := by
  obtain ⟨_, _, same⟩ | ⟨state, _, loaded⟩ := load_effect runtime impl container
  · exact .inl (by rw [same])
  · exact .inr loaded.recovered

end Restoring

section Tables

variable {runtime : Runtime} {impl : EngineImpl}

theorem beginEpoch_effect :
    RecordsEffect .beginEpoch impl.records (PortFabricEngine.beginEpoch impl).1.records := by
  unfold PortFabricEngine.beginEpoch
  split
  · exact .unchanged
  · split
    · exact .unchanged
    · exact .released _ ⟨by decide, by decide⟩

theorem fencePublisher_effect {publisher : PublisherId} {boot : WorkerBootId} :
    RecordsEffect (.fencePublisher publisher boot) impl.records
      (PortFabricEngine.fencePublisher impl publisher boot).1.records := by
  unfold PortFabricEngine.fencePublisher
  split
  · exact .unchanged
  · split
    · exact .unchanged
    · split
      · exact .unchanged
      · split
        · exact .unchanged
        · exact .released _ ⟨by decide, by decide⟩

theorem registerPublisher_frame (impl : EngineImpl) (publisher : PublisherId)
    (boot : WorkerBootId) (epoch : CoordinatorEpoch) :
    ∃ publishers,
      (PortFabricEngine.registerPublisher impl publisher boot epoch).1 =
        { impl with publishers } := by
  unfold PortFabricEngine.registerPublisher
  dsimp only
  repeat' split
  all_goals first
    | exact ⟨impl.publishers, rfl⟩
    | exact ⟨_, rfl⟩

theorem registerDevice_frame (runtime : Runtime) (impl : EngineImpl) (device : DeviceId)
    (generation : DeviceGeneration) (source : Text) :
    ∃ devices,
      (PortFabricEngine.registerDevice runtime impl device generation source).1 =
        { impl with devices } := by
  unfold PortFabricEngine.registerDevice
  dsimp only
  repeat' split
  all_goals first
    | exact ⟨impl.devices, rfl⟩
    | exact ⟨_, rfl⟩

theorem setTopologyGeneration_frame (impl : EngineImpl) (generation : TopologyGeneration) :
    ∃ topology,
      (PortFabricEngine.setTopologyGeneration impl generation).1 = { impl with topology } := by
  unfold PortFabricEngine.setTopologyGeneration
  repeat' split
  all_goals first
    | exact ⟨impl.topology, rfl⟩
    | exact ⟨_, rfl⟩

theorem save_frame (runtime : Runtime) (impl : EngineImpl) (store : StoreAnswers) :
    ∃ durabilityDirty,
      (PortFabricEngine.save runtime impl store).1 = { impl with durabilityDirty } := by
  unfold PortFabricEngine.save
  split
  · exact ⟨impl.durabilityDirty, rfl⟩
  · exact ⟨_, rfl⟩

/-- The operation concerns neither the ports nor the authority over them. -/
def Operation.isSetting : Operation → Bool
  | .defineProfile _ | .registerDevice .. | .setTopologyGeneration _ | .save _ | .shutdown => true
  | _ => false

/-- What a setting leaves alone. -/
structure SettingEffect (before after : EngineImpl) : Prop where
  records : after.records = before.records
  indexes : after.indexes = before.indexes
  generation : after.generation = before.generation
  publishers : after.publishers = before.publishers
  epoch : after.epoch = before.epoch

theorem perform_setting (runtime : Runtime) (impl : EngineImpl) (operation : Operation)
    (setting : operation.isSetting = true) :
    SettingEffect impl (impl.perform runtime operation) := by
  cases operation with
  | defineProfile profile => exact ⟨rfl, rfl, rfl, rfl, rfl⟩
  | registerDevice device generation source =>
      obtain ⟨_, same⟩ := registerDevice_frame runtime impl device generation source
      rw [EngineImpl.perform, same]
      exact ⟨rfl, rfl, rfl, rfl, rfl⟩
  | setTopologyGeneration generation =>
      obtain ⟨_, same⟩ := setTopologyGeneration_frame impl generation
      rw [EngineImpl.perform, same]
      exact ⟨rfl, rfl, rfl, rfl, rfl⟩
  | save store =>
      obtain ⟨_, same⟩ := save_frame runtime impl store
      rw [EngineImpl.perform, same]
      exact ⟨rfl, rfl, rfl, rfl, rfl⟩
  | shutdown => exact ⟨rfl, rfl, rfl, rfl, rfl⟩
  | _ => cases setting

/-- Outside the pipeline and recovery, records are inserted under new ports or released. -/
theorem perform_records {operation : Operation}
    (outside : ∀ mutation answers, operation ≠ .mutate mutation answers)
    (unloaded : operation.isLoad = false) :
    RecordsEffect operation impl.records (impl.perform runtime operation).records := by
  have frame := perform_setting runtime impl operation
  cases operation with
  | bindPort request answers => exact (bindPort_effect runtime impl request answers).1
  | mutate mutation answers => exact absurd rfl (outside mutation answers)
  | beginEpoch => exact beginEpoch_effect
  | registerPublisher publisher boot epoch =>
      obtain ⟨_, same⟩ := registerPublisher_frame impl publisher boot epoch
      rw [EngineImpl.perform, same]
      exact .unchanged
  | fencePublisher publisher boot => exact fencePublisher_effect
  | load container => simp [Operation.isLoad] at unloaded
  | defineProfile | registerDevice | setTopologyGeneration | save | shutdown =>
      rw [(frame rfl).records]
      exact .unchanged

end Tables

end PortFabric
