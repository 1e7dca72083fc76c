import PortFabric.Engine.AuthorityProperties

/-!
# Properties of recovery

What a recovered record keeps of the persisted one, and the tables after a load.
-/

set_option autoImplicit false

namespace PortFabric

open PortFabricEngine

namespace PortRecord

variable (record : PortRecord)

theorem recoverOwnership_eq :
    ∃ generation reason detail,
      record.recoverOwnership =
        { record with
          generations := { record.generations with ownership := generation }
          ownership := none
          statusReason := reason
          statusDetail := detail } := by
  unfold recoverOwnership
  split
  · next unowned =>
      refine ⟨record.generations.ownership, record.statusReason, record.statusDetail, ?_⟩
      rw [← unowned]
  · exact ⟨_, _, _, rfl⟩

theorem recoverEvidence_eq :
    ∃ generation applied,
      record.recoverEvidence =
        { record with
          generations := { record.generations with evidence := generation }
          applied } := by
  unfold recoverEvidence
  split
  · exact ⟨_, _, rfl⟩
  · exact ⟨_, _, rfl⟩

theorem recoverLifecycle_eq :
    ∃ lifecycle generation drift reason detail,
      record.recoverLifecycle =
        { record with
          lifecycle
          generations := { record.generations with lifecycle := generation }
          drift
          statusReason := reason
          statusDetail := detail } := by
  unfold recoverLifecycle
  split
  · exact ⟨_, _, _, _, _, rfl⟩
  · exact ⟨_, _, _, _, _, rfl⟩

theorem recovered_eq :
    ∃ lifecycle ownershipGeneration evidenceGeneration lifecycleGeneration applied drift reason
        detail,
      record.recovered =
        { record with
          lifecycle
          ownership := none
          applied
          drift
          generations :=
            { record.generations with
              ownership := ownershipGeneration
              evidence := evidenceGeneration
              lifecycle := lifecycleGeneration }
          provenance := { record.provenance with kind := .recovery }
          lastMutation := {}
          statusReason := reason
          statusDetail := detail } := by
  obtain ⟨_, _, _, owned⟩ := record.recoverOwnership_eq
  obtain ⟨_, _, evident⟩ := record.recoverOwnership.recoverEvidence_eq
  obtain ⟨_, _, _, _, _, alive⟩ := record.recoverOwnership.recoverEvidence.recoverLifecycle_eq
  unfold recovered
  rw [alive, evident, owned]
  exact ⟨_, _, _, _, _, _, _, _, rfl⟩

@[simp] theorem recovered_port : record.recovered.port = record.port := by
  obtain ⟨_, _, _, _, _, _, _, _, same⟩ := record.recovered_eq
  rw [same]

@[simp] theorem recovered_parentDevice : record.recovered.parentDevice = record.parentDevice := by
  obtain ⟨_, _, _, _, _, _, _, _, same⟩ := record.recovered_eq
  rw [same]

@[simp] theorem recovered_ownership : record.recovered.ownership = none := by
  obtain ⟨_, _, _, _, _, _, _, _, same⟩ := record.recovered_eq
  rw [same]

@[simp] theorem recovered_configuration :
    record.recovered.configuration = record.configuration := by
  obtain ⟨_, _, _, _, _, _, _, _, same⟩ := record.recovered_eq
  rw [same]

@[simp] theorem recovered_lastMutation : record.recovered.lastMutation = {} := rfl

/-- A recovered configuration has to be revalidated, unless its port is retired. -/
theorem recovered_lifecycle :
    record.recovered.lifecycle =
      if record.configuration.isSome ∧ record.lifecycle ≠ .retired then .revalidationRequired
      else record.lifecycle := by
  obtain ⟨_, _, _, owned⟩ := record.recoverOwnership_eq
  obtain ⟨_, _, evident⟩ := record.recoverOwnership.recoverEvidence_eq
  unfold recovered recoverLifecycle
  rw [evident, owned]
  dsimp only
  split
  · rfl
  · rfl

theorem recovered_standing (configured : record.configuration.isSome = true) :
    record.recovered.lifecycle =
      if record.lifecycle = .retired then .retired else .revalidationRequired := by
  rw [recovered_lifecycle]
  by_cases retired : record.lifecycle = .retired
  · simp [retired]
  · simp [configured, retired]

theorem recovered_idle (configured : record.configuration.isSome = true) :
    record.recovered.lifecycle.isLive = false := by
  rw [record.recovered_standing configured]
  split
  · rfl
  · rfl

theorem recovered_applied :
    record.recovered.applied = record.recoverOwnership.recoverEvidence.applied := by
  obtain ⟨_, _, _, _, _, alive⟩ := record.recoverOwnership.recoverEvidence.recoverLifecycle_eq
  unfold recovered
  rw [alive]

end PortRecord

theorem restoreProfiles_code {registry : ProfileRegistry} {profiles : List PortProfile}
    {failure : Outcome} (refused : (restoreProfiles registry profiles).2 = some failure) :
    failure.code = .persistenceCorruption := by
  induction profiles generalizing registry with
  | nil => cases refused
  | cons profile rest ih =>
      unfold restoreProfiles at refused
      dsimp only at refused
      split at refused
      · exact ih refused
      · cases refused
        rfl

theorem restoreProfiles_refused {registry : ProfileRegistry} {profiles : List PortProfile}
    {failure : Outcome} (refused : (restoreProfiles registry profiles).2 = some failure) :
    failure.accepted = false := by
  rw [Outcome.accepted, restoreProfiles_code refused]
  rfl

theorem restoreRecords_code {records : RecordMap} {persisted : List PortRecord}
    {failure : Outcome} (refused : (restoreRecords records persisted).2 = some failure) :
    failure.code = .persistenceCorruption := by
  induction persisted generalizing records with
  | nil => cases refused
  | cons record rest ih =>
      unfold restoreRecords at refused
      split at refused
      · cases refused
        rfl
      · exact ih refused

theorem restoreRecords_refused {records : RecordMap} {persisted : List PortRecord}
    {failure : Outcome} (refused : (restoreRecords records persisted).2 = some failure) :
    failure.accepted = false := by
  rw [Outcome.accepted, restoreRecords_code refused]
  rfl

theorem restoreRecords_complete_iff {records : RecordMap} {persisted : List PortRecord} :
    (restoreRecords records persisted).2 = none ↔
      ∀ record ∈ persisted, record.recovered.validate = .ok () := by
  induction persisted generalizing records with
  | nil => simp [restoreRecords]
  | cons record rest ih =>
      unfold restoreRecords
      split
      · next refused => simp [refused]
      · next accepted => simp [accepted, ih]

theorem restoreRecords_every {holds : PortId → PortRecord → Prop} {records : RecordMap}
    {persisted : List PortRecord} (every : OrderedMap.Every holds records)
    (recovered : ∀ record ∈ persisted, holds record.port record.recovered) :
    OrderedMap.Every holds (restoreRecords records persisted).1 := by
  induction persisted generalizing records with
  | nil => exact every
  | cons record rest ih =>
      unfold restoreRecords
      split
      · exact every
      · refine ih ?_ fun later member => recovered later (List.mem_cons_of_mem _ member)
        intro port stored found
        rw [OrderedMap.lookup_insertIfNew] at found
        split at found
        · next here =>
            cases found
            have same := here.1
            rw [PortRecord.recovered_port] at same
            rw [← same]
            exact recovered record List.mem_cons_self
        · exact every port stored found

/-- A complete restore holds the recovery of the first record of each port. -/
theorem restoreRecords_lookup {records : RecordMap} {persisted : List PortRecord}
    (complete : (restoreRecords records persisted).2 = none) (port : PortId) :
    (restoreRecords records persisted).1[port]? =
      records[port]?.or
        ((persisted.find? fun record => record.port = port).map PortRecord.recovered) := by
  induction persisted generalizing records with
  | nil => simp [restoreRecords]
  | cons record rest ih =>
      unfold restoreRecords at complete ⊢
      split at complete
      · cases complete
      · next validated =>
          rw [ih complete, OrderedMap.lookup_insertIfNew, PortRecord.recovered_port,
            List.find?_cons]
          by_cases same : record.port = port
          · subst same
            cases present : records[record.port]? with
            | none => simp
            | some found => simp
          · simp [same]

/-- A restore holds the recoveries up to the first record that cannot be recovered. -/
theorem restoreRecords_prefix_lookup (records : RecordMap) (persisted : List PortRecord)
    (port : PortId) :
    (restoreRecords records persisted).1[port]? =
      records[port]?.or
        (((persisted.takeWhile fun record => record.recovered.validate.isOk).find?
          fun record => record.port = port).map PortRecord.recovered) := by
  induction persisted generalizing records with
  | nil => simp [restoreRecords]
  | cons record rest ih =>
      unfold restoreRecords
      split
      · next refused => simp [refused, Except.isOk, Except.toBool]
      · next validated =>
          rw [ih, OrderedMap.lookup_insertIfNew, PortRecord.recovered_port,
            List.takeWhile_cons_of_pos (by rw [validated]; rfl), List.find?_cons]
          -- The first record of a port wins: later ones find it inserted.
          by_cases same : record.port = port
          · subst same
            cases present : records[record.port]? with
            | none => simp
            | some found => simp
          · simp [same]

/-- The records of a container up to the first one that cannot be recovered. -/
def PersistedState.recoverable (state : PersistedState) : List PortRecord :=
  state.records.takeWhile fun record => record.recovered.validate.isOk

theorem PersistedState.recoverable_validate (state : PersistedState) {record : PortRecord}
    (member : record ∈ state.recoverable) : record.recovered.validate = .ok () := by
  have every : state.recoverable.all (fun record => record.recovered.validate.isOk) = true :=
    List.all_takeWhile
  have valid := List.all_eq_true.mp every record member
  cases validated : record.recovered.validate with
  | error reason =>
      rw [validated] at valid
      cases valid
  | ok passed => rfl

/-- The restored records are the recoveries of the first records of their ports. -/
theorem restored_lookup (state : PersistedState) (port : PortId) :
    (restoreRecords ∅ state.records).1[port]? =
      (state.recoverable.find? fun record => record.port = port).map PortRecord.recovered := by
  rw [restoreRecords_prefix_lookup]
  simp [PersistedState.recoverable]

/-- A property of the restored records is one of the records they are recovered from. -/
theorem restored_every_iff {holds : PortId → PortRecord → Prop} (state : PersistedState) :
    OrderedMap.Every holds (restoreRecords ∅ state.records).1 ↔
      ∀ port record, state.recoverable.find? (fun record => record.port = port) = some record →
        holds port record.recovered := by
  constructor
  · intro every port record member
    exact every port record.recovered (by rw [restored_lookup, member]; rfl)
  · intro every port restored found
    rw [restored_lookup] at found
    obtain ⟨record, member, rfl⟩ := Option.map_eq_some_iff.mp found
    exact every port record member

/-- The recovery takes the flag away, if it is set. -/
def AppliedEvidence.Downgradable (evidence : AppliedEvidence) : Prop :=
  evidence.verified = true → evidence.outcome = .applied ∨ evidence.outcome = .verified

/-- The recovered evidence is unverified exactly when the recovery can downgrade it. -/
theorem PortRecord.recovered_unverified_iff {record : PortRecord} :
    record.recovered.applied.verified = false ↔ record.applied.Downgradable := by
  obtain ⟨_, _, _, owned⟩ := record.recoverOwnership_eq
  rw [PortRecord.recovered_applied, owned]
  unfold recoverEvidence AppliedEvidence.Downgradable
  dsimp only
  split
  · next settled => exact iff_of_true rfl fun _ => settled
  · next unsettled =>
      constructor
      · intro unverified verified
        rw [unverified] at verified
        cases verified
      · intro downgradable
        by_contra verified
        exact unsettled (downgradable (by simpa using verified))

theorem EngineImpl.recoverAuthority_absent_iff {impl : EngineImpl} {state : PersistedState}
    {epoch : CoordinatorEpoch} {publisher : PublisherId} :
    (impl.recoverAuthority state epoch).publishers[publisher]? = none ↔
      ∀ persisted ∈ state.publishers, persisted.publisher ≠ publisher := by
  have restored (publishers : Std.ExtTreeMap PublisherId PublisherRecord)
      (persisted : List PublisherRecord) :
      (persisted.foldl (fun publishers publisher =>
          publishers.insert publisher.publisher { publisher with fenced := true })
          publishers)[publisher]? = none ↔
        publishers[publisher]? = none ∧
          ∀ entry ∈ persisted, entry.publisher ≠ publisher := by
    induction persisted generalizing publishers with
    | nil => simp
    | cons entry rest ih =>
        rw [List.foldl_cons, ih, OrderedMap.lookup_insert]
        by_cases same : entry.publisher = publisher
        · simp [same]
        · simp [same]
  have none : (∅ : Std.ExtTreeMap PublisherId PublisherRecord)[publisher]? = none := by simp
  exact (restored ∅ state.publishers).trans (and_iff_right none)

/-- The epoch under which a container is recovered. -/
def EngineImpl.recoveredEpoch (impl : EngineImpl) (state : PersistedState) : CoordinatorEpoch :=
  if impl.epoch ≤ state.epoch then state.epoch.next else impl.epoch

theorem EngineImpl.recoverRecords_complete {base : EngineImpl} {state : PersistedState}
    (accepted : (base.recoverRecords state).2.accepted = true) :
    (restoreRecords ∅ state.records).2 = none := by
  unfold recoverRecords at accepted
  split at accepted
  · next stopped =>
      rw [restoreRecords_refused (congrArg Prod.snd stopped)] at accepted
      cases accepted
  · next finished => rw [finished]

theorem EngineImpl.acceptContainer_code {config : EngineConfig} {state : PersistedState}
    {outcome : Outcome} (refused : acceptContainer config state = .error outcome) :
    outcome.code = .persistenceBoundsExceeded ∨ outcome.code = .conflictDetected := by
  unfold acceptContainer at refused
  split at refused
  · cases refused
    exact .inl rfl
  · split at refused
    · cases refused
      exact .inr rfl
    · split at refused
      · cases refused
        exact .inr rfl
      · cases refused

theorem EngineImpl.acceptContainer_refused {config : EngineConfig} {state : PersistedState}
    {outcome : Outcome} (refused : acceptContainer config state = .error outcome) :
    outcome.accepted = false := by
  rcases acceptContainer_code refused with code | code
  · rw [Outcome.accepted, code]
    rfl
  · rw [Outcome.accepted, code]
    rfl

theorem EngineImpl.recoverRecords_code (base : EngineImpl) (state : PersistedState) :
    (base.recoverRecords state).2.code ≠ .persistenceIoFailure := by
  unfold recoverRecords
  split
  · next stopped =>
      rw [restoreRecords_code (congrArg Prod.snd stopped)]
      decide
  · dsimp only
    split
    · split
      · exact of_decide_eq_true rfl
      · exact of_decide_eq_true rfl
    · exact of_decide_eq_true rfl

/-- The refusal of a container that is there does not look like a missing one. -/
theorem load_code {runtime : Runtime} {impl : EngineImpl} {state : PersistedState}
    (path : runtime.config.persistencePath.isEmpty = false) :
    (load runtime impl (.ok state)).2.code ≠ .persistenceIoFailure := by
  unfold load
  simp only [path, Bool.false_eq_true, if_false]
  split
  · next refused =>
      rcases EngineImpl.acceptContainer_code refused with code | code
      · rw [code]
        decide
      · rw [code]
        decide
  · split
    · next stopped =>
        rw [restoreProfiles_code (congrArg Prod.snd stopped)]
        decide
    · split
      · split
        · exact of_decide_eq_true rfl
        · exact EngineImpl.recoverRecords_code _ _
      · exact EngineImpl.recoverRecords_code _ _

/-- An accepted load is carried out to the last record, under an epoch past the stored one. -/
theorem load_accepted {runtime : Runtime} {impl : EngineImpl} {state : PersistedState}
    (accepted : (load runtime impl (.ok state)).2.accepted = true) :
    Recovers runtime impl (.ok state) state ∧ (restoreRecords ∅ state.records).2 = none ∧
      (load runtime impl (.ok state)).1.epoch = impl.recoveredEpoch state := by
  unfold load at accepted ⊢
  split at accepted
  · cases accepted
  · next path =>
      rw [Bool.not_eq_true] at path
      simp only [path, Bool.false_eq_true, if_false]
      dsimp only at accepted
      split at accepted
      · next refused =>
          rw [EngineImpl.acceptContainer_refused refused] at accepted
          cases accepted
      · next belongs =>
          split at accepted
          · next stopped =>
              rw [restoreProfiles_refused (congrArg Prod.snd stopped)] at accepted
              cases accepted
          · next profiles finished =>
              split at accepted
              · next covered =>
                  split at accepted
                  · cases accepted
                  · next room =>
                      rw [Bool.not_eq_true] at room
                      obtain ⟨_, _, same⟩ := recoverRecords_frame
                        (({ impl with profiles } : EngineImpl).recoverAuthority state
                          state.epoch.next) state
                      refine ⟨⟨rfl, path, belongs, ?_, fun _ => room⟩,
                        EngineImpl.recoverRecords_complete accepted, ?_⟩
                      · rw [finished]
                      · simp only [covered, room, same, Bool.false_eq_true, if_true, if_false,
                          EngineImpl.recoveredEpoch]
                        rfl
              · next older =>
                  obtain ⟨_, _, same⟩ := recoverRecords_frame
                    (({ impl with profiles } : EngineImpl).recoverAuthority state impl.epoch) state
                  refine ⟨⟨rfl, path, belongs, ?_, fun covered => absurd covered older⟩,
                    EngineImpl.recoverRecords_complete accepted, ?_⟩
                  · rw [finished]
                  · simp only [older, same, if_false, EngineImpl.recoveredEpoch]
                    rfl

/-- After an accepted load the engine holds the recovery of the first record of each port. -/
theorem load_records_lookup {runtime : Runtime} {impl : EngineImpl} {state : PersistedState}
    (accepted : (load runtime impl (.ok state)).2.accepted = true) (port : PortId) :
    (load runtime impl (.ok state)).1.records[port]? =
      (state.records.find? fun record => record.port = port).map PortRecord.recovered := by
  obtain ⟨recovers, complete, _⟩ := load_accepted accepted
  obtain ⟨unread, _⟩ | ⟨other, again, loaded⟩ := load_effect runtime impl (.ok state)
  · exact absurd recovers (unread state)
  · obtain rfl : state = other := Except.ok.inj again.read
    rw [loaded.records, restoreRecords_lookup complete]
    simp

theorem Recovers.epoch_beyond {runtime : Runtime} {impl : EngineImpl}
    {container : Except Outcome PersistedState} {state : PersistedState}
    (recovers : Recovers runtime impl container state) :
    state.epoch < impl.recoveredEpoch state := by
  unfold EngineImpl.recoveredEpoch
  split
  · next covered => exact Generation.lt_next (recovers.epoch covered)
  · next older => exact Nat.not_le.mp older

/-- The load is carried out, and its records replace those of the engine. -/
def EngineImpl.carriesOut (runtime : Runtime) (impl : EngineImpl) :
    Except Outcome PersistedState → Bool
  | .error _ => false
  | .ok state =>
      !runtime.config.persistencePath.isEmpty &&
        decide (EngineImpl.acceptContainer runtime.config state = .ok ()) &&
        (restoreProfiles ∅ (state.profiles.insertionSort profileBefore)).2.isNone &&
        !(decide (impl.epoch ≤ state.epoch) && state.epoch.exhaustible)

theorem EngineImpl.carriesOut_iff {runtime : Runtime} {impl : EngineImpl}
    {container : Except Outcome PersistedState} :
    impl.carriesOut runtime container = true ↔ ∃ state, Recovers runtime impl container state := by
  cases container with
  | error outcome =>
      refine iff_of_false (by simp [carriesOut]) ?_
      intro given
      rcases given with ⟨state, recovers⟩
      cases recovers.read
  | ok state =>
      simp only [carriesOut, Bool.and_eq_true, Bool.not_eq_true', decide_eq_true_eq,
        Option.isNone_iff_eq_none, Bool.and_eq_false_imp]
      constructor
      · intro given
        rcases given with ⟨⟨⟨path, accepted⟩, profiles⟩, epoch⟩
        exact ⟨state, rfl, path, accepted, profiles, epoch⟩
      · intro given
        rcases given with ⟨other, recovers⟩
        cases recovers.read
        exact ⟨⟨⟨recovers.path, recovers.accepted⟩, recovers.profiles⟩, recovers.epoch⟩

/-- A load that is not carried out keeps the records. -/
theorem EngineImpl.load_records_of_not_carriesOut {runtime : Runtime} {impl : EngineImpl}
    {container : Except Outcome PersistedState}
    (refused : impl.carriesOut runtime container = false) :
    (load runtime impl container).1.records = impl.records := by
  obtain ⟨_, _, same⟩ | ⟨recovered, recovers, _⟩ := load_effect runtime impl container
  · rw [same]
  · rw [carriesOut_iff.mpr ⟨recovered, recovers⟩] at refused
    cases refused

/-- A load that is carried out recovers the authority and then the records. -/
theorem Recovers.load_eq {runtime : Runtime} {impl : EngineImpl}
    {container : Except Outcome PersistedState} {state : PersistedState}
    (recovers : Recovers runtime impl container state) :
    ∃ profiles, (restoreProfiles ∅ (state.profiles.insertionSort profileBefore)).1 = profiles ∧
      load runtime impl container =
        (({ impl with profiles } : EngineImpl).recoverAuthority state
          (impl.recoveredEpoch state)).recoverRecords state := by
  obtain ⟨rfl, path, accepted, whole, room⟩ := recovers
  refine ⟨_, rfl, ?_⟩
  unfold load EngineImpl.recoveredEpoch
  simp only [path, Bool.false_eq_true, if_false, accepted]
  split
  · next stopped =>
      rw [stopped] at whole
      cases whole
  · next finished =>
      by_cases covered : impl.epoch ≤ state.epoch
      · simp only [covered, if_true, room covered, Bool.false_eq_true, if_false, finished]
      · simp only [covered, if_false, finished]

theorem Recovers.load_epoch {runtime : Runtime} {impl : EngineImpl}
    {container : Except Outcome PersistedState} {state : PersistedState}
    (recovers : Recovers runtime impl container state) :
    (load runtime impl container).1.epoch = impl.recoveredEpoch state := by
  obtain ⟨profiles, _, same⟩ := recovers.load_eq
  obtain ⟨_, _, restored⟩ := recoverRecords_frame
    (({ impl with profiles } : EngineImpl).recoverAuthority state (impl.recoveredEpoch state)) state
  rw [same, restored]
  rfl

/-- The epoch moves on by one step, or past the epoch of a container. -/
theorem EngineImpl.perform_epoch (runtime : Runtime) (impl : EngineImpl) (operation : Operation) :
    (impl.perform runtime operation).epoch = impl.epoch ∨
      (impl.epoch < impl.epoch.next ∧
        (impl.perform runtime operation).epoch = impl.epoch.next) ∨
      ∃ container state, operation = .load container ∧ Recovers runtime impl container state ∧
        (impl.perform runtime operation).epoch = impl.recoveredEpoch state := by
  have frame := perform_setting runtime impl operation
  cases operation with
  | bindPort request answers =>
      rw [perform, (bindPort_effect runtime impl request answers).2.2]
      exact .inl rfl
  | mutate mutation answers =>
      rw [perform, executeMutation_epoch]
      exact .inl rfl
  | beginEpoch =>
      obtain ⟨same, _⟩ | ⟨_, later, _, after⟩ := beginEpoch_effect_cases impl
      · rw [perform, same]
        exact .inl rfl
      · rw [perform, after]
        exact .inr (.inl ⟨later, rfl⟩)
  | registerPublisher publisher boot epoch =>
      obtain ⟨_, same⟩ := registerPublisher_frame impl publisher boot epoch
      rw [perform, same]
      exact .inl rfl
  | fencePublisher publisher boot =>
      obtain ⟨same, _⟩ | ⟨existing, _, _, _, _, after⟩ :=
        fencePublisher_effect_cases impl publisher boot
      · rw [perform, same]
        exact .inl rfl
      · rw [perform, after]
        exact .inl rfl
  | load container =>
      obtain ⟨_, _, same⟩ | ⟨state, recovers, _⟩ := load_effect runtime impl container
      · rw [perform, same]
        exact .inl rfl
      · exact .inr (.inr ⟨container, state, rfl, recovers, recovers.load_epoch⟩)
  | defineProfile | registerDevice | setTopologyGeneration | save | shutdown =>
      rw [(frame rfl).epoch]
      exact .inl rfl

theorem EngineImpl.le_recoveredEpoch (impl : EngineImpl) (state : PersistedState) :
    impl.epoch ≤ impl.recoveredEpoch state := by
  unfold EngineImpl.recoveredEpoch
  split
  · next covered => exact Generation.le_trans covered (Generation.le_next _)
  · exact Generation.le_refl _

theorem EngineImpl.epoch_le_perform {runtime : Runtime} (impl : EngineImpl)
    (operation : Operation) : impl.epoch ≤ (impl.perform runtime operation).epoch := by
  rcases impl.perform_epoch runtime operation with same | ⟨later, moved⟩ |
    ⟨_, state, _, _, recovered⟩
  · rw [same]
    exact Generation.le_refl _
  · rw [moved]
    exact Generation.le_of_lt later
  · rw [recovered]
    exact impl.le_recoveredEpoch state

theorem EngineImpl.epoch_le_run {runtime : Runtime} (impl : EngineImpl)
    (operations : List Operation) :
    impl.epoch ≤ (Runs.run (perform runtime) impl operations).epoch := by
  induction operations generalizing impl with
  | nil => exact Generation.le_refl _
  | cons operation rest ih =>
      exact Generation.le_trans (impl.epoch_le_perform operation)
        (ih (impl.perform runtime operation))

end PortFabric
