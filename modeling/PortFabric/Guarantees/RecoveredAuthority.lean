import PortFabric.Engine.Fixture
import PortFabric.Engine.RecoveryProperties

/-!
# Recovered authority

A recovery brings back no authority of the process that wrote the container, and
what follows in the run gives it back only by a registration or, where unknown
publishers register by themselves, by a later recovery that leaves the publisher
out.
-/

set_option autoImplicit false

namespace PortFabric

open PortFabricEngine

/-- What becomes of a persisted record. -/
structure Disarmed (record restored : PortRecord) : Prop where
  port : restored.port = record.port
  unowned : restored.ownership = none
  forgotten : restored.lastMutation = {}
  suspended : restored.lifecycle ≠ .retired → restored.configuration.isSome = true →
    restored.lifecycle = .revalidationRequired
  retired : record.lifecycle = .retired → restored.lifecycle = .retired

/-- The engine holds every record and publisher of the container, without their authority. -/
structure WithoutAuthority (state : PersistedState) (impl : EngineImpl) : Prop where
  records : ∀ (port : PortId) (restored : PortRecord), impl.records[port]? = some restored →
    ∃ record ∈ state.records, record.port = port ∧ Disarmed record restored
  complete : ∀ record ∈ state.records, impl.records[record.port]?.isSome = true
  publishers : ∀ persisted ∈ state.publishers, ∃ found,
    impl.publishers[persisted.publisher]? = some found ∧ found.fenced = true
  epoch : state.epoch < impl.epoch

/--
The operation registers the publisher, or recovers a publisher table without it
in an engine whose unknown publishers register by themselves.
-/
def Readmits (runtime : Runtime) (publisher : PublisherId) (impl : EngineImpl) :
    Operation → Prop
  | .registerPublisher registered boot epoch =>
      registered = publisher ∧ (registerPublisher impl registered boot epoch).2.isOk = true
  | .load container =>
      runtime.config.publisherRegistration ≠ .explicit ∧
        ∃ state, Recovers runtime impl container state ∧
          ∀ persisted ∈ state.publishers, persisted.publisher ≠ publisher
  | _ => False

theorem PortRecord.recovered_disarmed (record : PortRecord) : Disarmed record record.recovered where
  port := record.recovered_port
  unowned := record.recovered_ownership
  forgotten := record.recovered_lastMutation
  suspended := by
    intro alive configured
    rw [PortRecord.recovered_configuration] at configured
    rw [PortRecord.recovered_lifecycle] at alive ⊢
    by_cases retired : record.lifecycle = .retired
    · simp [retired] at alive
    · simp [configured, retired]
  retired := by
    intro retired
    rw [PortRecord.recovered_lifecycle]
    simp [retired]

section Recovery

variable {runtime : Runtime} {impl : EngineImpl} {state : PersistedState}

/-- The table holds a fenced incarnation of the publisher. -/
def EngineImpl.Fenced (impl : EngineImpl) (publisher : PublisherId) : Prop :=
  ∃ found, impl.publishers[publisher]? = some found ∧ found.fenced = true

/-- The publisher is fenced, or unknown to an engine that asks publishers to register. -/
def EngineImpl.Barred (runtime : Runtime) (impl : EngineImpl) (publisher : PublisherId) : Prop :=
  impl.Fenced publisher ∨
    impl.publishers[publisher]? = none ∧ runtime.config.publisherRegistration = .explicit

theorem EngineImpl.recoverAuthority_fenced {epoch : CoordinatorEpoch} {persisted : PublisherRecord}
    (held : persisted ∈ state.publishers) :
    (impl.recoverAuthority state epoch).Fenced persisted.publisher := by
  cases present : (impl.recoverAuthority state epoch).publishers[persisted.publisher]? with
  | none => exact absurd rfl (EngineImpl.recoverAuthority_absent_iff.mp present persisted held)
  | some found =>
      exact ⟨found, present, (EngineImpl.recoverAuthority_publishers _ _ _ _ _ present).2⟩

theorem load_withoutAuthority
    (accepted : (load runtime impl (.ok state)).2.accepted = true) :
    WithoutAuthority state (load runtime impl (.ok state)).1 := by
  obtain ⟨recovers, complete, epoch⟩ := load_accepted accepted
  obtain ⟨unread, _⟩ | ⟨other, again, loaded⟩ := load_effect runtime impl (.ok state)
  · exact absurd recovers (unread state)
  obtain rfl : state = other := Except.ok.inj again.read
  constructor
  · intro port restored found
    rw [load_records_lookup accepted] at found
    obtain ⟨record, first, rfl⟩ := Option.map_eq_some_iff.mp found
    have named : record.port = port := by simpa using List.find?_some first
    exact ⟨record, List.mem_of_find?_eq_some first, named, record.recovered_disarmed⟩
  · intro record held
    rw [load_records_lookup accepted, Option.isSome_map, List.find?_isSome]
    exact ⟨record, held, by simp⟩
  · intro persisted held
    rw [loaded.publishers]
    exact EngineImpl.recoverAuthority_fenced held
  · rw [epoch]
    exact recovers.epoch_beyond

end Recovery

section Continuation

variable {runtime : Runtime} {impl : EngineImpl} {publisher : PublisherId}

theorem registerPublisher_cases (impl : EngineImpl) (publisher : PublisherId)
    (boot : WorkerBootId) (epoch : CoordinatorEpoch) :
    ((registerPublisher impl publisher boot epoch).1 = impl ∨
        (registerPublisher impl publisher boot epoch).2.isOk = true) ∧
      ((registerPublisher impl publisher boot epoch).1 = impl ∨
        ∃ entry, (registerPublisher impl publisher boot epoch).1 =
          { impl with publishers := impl.publishers.insert publisher entry }) := by
  unfold registerPublisher
  dsimp only
  repeat' split
  all_goals first
    | exact ⟨.inl rfl, .inl rfl⟩
    | exact ⟨.inr rfl, .inr ⟨_, rfl⟩⟩

/-- Only a registration or a load ends a fence. -/
theorem EngineImpl.Fenced.perform {operation : Operation} (fenced : impl.Fenced publisher)
    (kept : ¬Readmits runtime publisher impl operation) (running : operation.isLoad = false) :
    (impl.perform runtime operation).Fenced publisher := by
  obtain ⟨found, present, ended⟩ := fenced
  have frame := perform_setting runtime impl operation
  cases operation with
  | bindPort request answers =>
      refine ⟨found, ?_, ended⟩
      rw [EngineImpl.perform, (bindPort_effect runtime impl request answers).2.1]
      exact present
  | mutate mutation answers => exact ⟨found, executeMutation_publisher present, ended⟩
  | beginEpoch =>
      obtain ⟨same, _⟩ | ⟨_, _, _, after⟩ := beginEpoch_effect_cases impl
      · rw [EngineImpl.perform, same]
        exact ⟨found, present, ended⟩
      · refine ⟨fencedBefore impl.epoch.next found, ?_, ?_⟩
        · rw [EngineImpl.perform, after]
          simp [releaseOwnershipBeforeEpoch, present]
        · unfold fencedBefore
          split
          · rfl
          · exact ended
  | registerPublisher registered boot epoch =>
      obtain ⟨answered, frame⟩ := registerPublisher_cases impl registered boot epoch
      by_cases same : registered = publisher
      · rcases answered with same' | accepted
        · rw [EngineImpl.perform, same']
          exact ⟨found, present, ended⟩
        · exact absurd ⟨same, accepted⟩ kept
      · refine ⟨found, ?_, ended⟩
        rw [EngineImpl.perform]
        obtain unchanged | ⟨entry, inserted⟩ := frame
        · rw [unchanged]
          exact present
        · rw [inserted]
          exact (OrderedMap.lookup_insert_of_ne same).trans present
  | fencePublisher other boot =>
      obtain ⟨same, _⟩ | ⟨existing, held, _, _, _, after⟩ :=
        fencePublisher_effect_cases impl other boot
      · rw [EngineImpl.perform, same]
        exact ⟨found, present, ended⟩
      · by_cases same : other = publisher
        · subst same
          refine ⟨{ existing with fenced := true }, ?_, rfl⟩
          rw [EngineImpl.perform, after]
          simp [releaseOwnershipOf]
        · refine ⟨found, ?_, ended⟩
          rw [EngineImpl.perform, after]
          exact (OrderedMap.lookup_insert_of_ne same).trans present
  | load container => cases running
  | defineProfile | registerDevice | setTopologyGeneration | save | shutdown =>
      exact ⟨found, (frame rfl).publishers ▸ present, ended⟩

/-- Where publishers have to register, an unknown one stays unknown. -/
theorem EngineImpl.perform_unknown {operation : Operation}
    (unknown : impl.publishers[publisher]? = none)
    (explicit : runtime.config.publisherRegistration = .explicit)
    (kept : ¬Readmits runtime publisher impl operation) (running : operation.isLoad = false) :
    (impl.perform runtime operation).publishers[publisher]? = none := by
  have frame := perform_setting runtime impl operation
  cases operation with
  | bindPort request answers =>
      rw [EngineImpl.perform, (bindPort_effect runtime impl request answers).2.1]
      exact unknown
  | mutate mutation answers =>
      have same := executeMutation_publishers runtime impl mutation answers explicit
      rw [EngineImpl.perform, same]
      exact unknown
  | beginEpoch =>
      obtain ⟨same, _⟩ | ⟨_, _, _, after⟩ := beginEpoch_effect_cases impl
      · rw [EngineImpl.perform, same]
        exact unknown
      · rw [EngineImpl.perform, after]
        simp [releaseOwnershipBeforeEpoch, unknown]
  | registerPublisher registered boot epoch =>
      obtain ⟨answered, frame⟩ := registerPublisher_cases impl registered boot epoch
      by_cases same : registered = publisher
      · rcases answered with same' | accepted
        · rw [EngineImpl.perform, same']
          exact unknown
        · exact absurd ⟨same, accepted⟩ kept
      · rw [EngineImpl.perform]
        obtain unchanged | ⟨entry, inserted⟩ := frame
        · rw [unchanged]
          exact unknown
        · rw [inserted]
          exact (OrderedMap.lookup_insert_of_ne same).trans unknown
  | fencePublisher other boot =>
      obtain ⟨same, _⟩ | ⟨existing, held, _, _, _, after⟩ :=
        fencePublisher_effect_cases impl other boot
      · rw [EngineImpl.perform, same]
        exact unknown
      · have different : other ≠ publisher := by
          intro same
          subst same
          rw [unknown] at held
          cases held
        rw [EngineImpl.perform, after]
        exact (OrderedMap.lookup_insert_of_ne different).trans unknown
  | load container => cases running
  | defineProfile | registerDevice | setTopologyGeneration | save | shutdown =>
      rw [(frame rfl).publishers]
      exact unknown

/-- A load fences the publishers of its container and forgets the others. -/
theorem EngineImpl.Barred.load {container : Except Outcome PersistedState}
    (barred : impl.Barred runtime publisher)
    (kept : ¬Readmits runtime publisher impl (.load container)) :
    (impl.perform runtime (.load container)).Barred runtime publisher := by
  obtain ⟨_, _, same⟩ | ⟨state, recovers, loaded⟩ := load_effect runtime impl container
  · rw [EngineImpl.perform, same]
    exact barred
  · unfold EngineImpl.perform EngineImpl.Barred EngineImpl.Fenced
    rw [loaded.publishers]
    by_cases held : ∃ persisted ∈ state.publishers, persisted.publisher = publisher
    · obtain ⟨persisted, held, rfl⟩ := held
      exact .inl (EngineImpl.recoverAuthority_fenced held)
    · have absent : ∀ persisted ∈ state.publishers, persisted.publisher ≠ publisher :=
        fun persisted listed same => held ⟨persisted, listed, same⟩
      refine .inr ⟨EngineImpl.recoverAuthority_absent_iff.mpr absent, ?_⟩
      by_contra automatic
      exact kept ⟨automatic, state, recovers, absent⟩

theorem EngineImpl.Barred.perform {operation : Operation} (barred : impl.Barred runtime publisher)
    (kept : ¬Readmits runtime publisher impl operation) :
    (impl.perform runtime operation).Barred runtime publisher := by
  cases running : operation.isLoad with
  | false =>
      rcases barred with fenced | ⟨unknown, explicit⟩
      · exact .inl (fenced.perform kept running)
      · exact .inr ⟨EngineImpl.perform_unknown unknown explicit kept running, explicit⟩
  | true =>
      cases operation with
      | load container => exact barred.load kept
      | _ => cases running

theorem EngineImpl.Barred.run {operations : List Operation} (barred : impl.Barred runtime publisher)
    (kept : Runs.Along (EngineImpl.perform runtime)
      (fun impl operation => ¬Readmits runtime publisher impl operation) impl operations) :
    (Runs.run (EngineImpl.perform runtime) impl operations).Barred runtime publisher := by
  induction operations generalizing impl with
  | nil => exact barred
  | cons operation rest ih => exact ih (barred.perform kept.1) kept.2

theorem EngineImpl.Barred.rejects {authority : AuthorityContext}
    (barred : impl.Barred runtime authority.publisher) : Rejects runtime impl authority := by
  rcases barred with ⟨found, present, ended⟩ | ⟨unknown, explicit⟩
  · exact rejects_fenced present ended
  · apply rejects_of_not_ok
    intro accepted
    obtain ⟨_, _, ⟨found, present, _⟩ | ⟨_, automatic, _⟩⟩ :=
      EngineImpl.checkAuthority_ok accepted
    · rw [unknown] at present
      cases present
    · exact automatic explicit

end Continuation

/--
An accepted load restores no authority: contexts of the stored epoch and of
those before it are refused for the rest of the run, and contexts of the
publishers it names until one registers again or, where unknown publishers
register by themselves, a recovery leaves it out.
-/
theorem recovery_restores_no_authority (runtime : Runtime) (impl : EngineImpl)
    (state : PersistedState) (accepted : (load runtime impl (.ok state)).2.accepted = true) :
    WithoutAuthority state (load runtime impl (.ok state)).1 ∧
      ∀ (operations : List Operation) (authority : AuthorityContext),
        (authority.epoch ≤ state.epoch →
          Rejects runtime (Runs.run (EngineImpl.perform runtime)
            (load runtime impl (.ok state)).1 operations) authority) ∧
        ((∃ persisted ∈ state.publishers, persisted.publisher = authority.publisher) →
          Runs.Along (EngineImpl.perform runtime)
            (fun impl operation => ¬Readmits runtime authority.publisher impl operation)
            (load runtime impl (.ok state)).1 operations →
          Rejects runtime (Runs.run (EngineImpl.perform runtime)
            (load runtime impl (.ok state)).1 operations) authority) := by
  have recovered := load_withoutAuthority accepted
  refine ⟨recovered, fun operations authority => ⟨fun stored => ?_, fun named along => ?_⟩⟩
  · apply rejects_stale
    exact Generation.lt_of_le_of_lt stored
      (Generation.lt_of_lt_of_le recovered.epoch (EngineImpl.epoch_le_run _ operations))
  · obtain ⟨persisted, held, same⟩ := named
    have initially : (load runtime impl (.ok state)).1.Fenced authority.publisher := by
      rw [← same]
      exact recovered.publishers persisted held
    have barred := EngineImpl.Barred.run (.inl initially) along
    exact barred.rejects

namespace ForgottenPublisher

def runtime : Runtime where
  config := Fixture.engineConfig "coordinator" "ports.pf" .first

def impl : EngineImpl := .initial runtime.config

/-- The container of a process in which one agent was registered. -/
def container : PersistedState where
  epoch := .first
  engineGeneration := .first
  topology := .first
  publishers := [{ publisher := "agent-a", boot := "boot-1", epoch := .first }]

/-- The same container from before the agent came. -/
def earlier : PersistedState := { container with publishers := [] }

def context : AuthorityContext where
  epoch := .next .first
  publisher := "agent-a"
  boot := "boot-1"
  attempt := "attempt-1"

theorem load_accepts : (load runtime impl (.ok container)).2.accepted = true := by
  decide +kernel

/-- The engine whose publishers have to register. -/
def strict : Runtime :=
  { runtime with config := { runtime.config with publisherRegistration := .explicit } }

/--
A context of the stored epoch is refused in every continuation, and where
publishers have to register the forgotten publisher is refused as well.
-/
theorem stored_epoch_rejected :
    WithoutAuthority container (load runtime impl (.ok container)).1 ∧
      (∀ operations : List Operation,
        Rejects runtime (Runs.run (EngineImpl.perform runtime)
          (load runtime impl (.ok container)).1 operations) { context with epoch := .first }) ∧
      Rejects strict (Runs.run (EngineImpl.perform strict)
        (load strict impl (.ok container)).1 [.load (.ok earlier), .beginEpoch]) context := by
  have restored := recovery_restores_no_authority runtime impl container load_accepts
  have accepted : (load strict impl (.ok container)).2.accepted = true := by
    decide +kernel
  have refused := (recovery_restores_no_authority strict impl container accepted).2
    [.load (.ok earlier), .beginEpoch] context
  refine ⟨restored.1, fun operations => ?_, refused.2 ⟨_, List.mem_singleton_self _, rfl⟩ ?_⟩
  · exact (restored.2 operations { context with epoch := .first }).1 (Generation.le_refl _)
  · exact ⟨fun readmits => readmits.1 rfl, id, trivial⟩

/-- A second recovery leaves the publisher out, which then registers itself. -/
theorem unregistered_publisher_accepted :
    ¬((load runtime impl (.ok container)).2.accepted = true →
      ∀ operations : List Operation,
        (∀ boot epoch, Operation.registerPublisher context.publisher boot epoch ∉ operations) →
        Rejects runtime (Runs.run (EngineImpl.perform runtime)
          (load runtime impl (.ok container)).1 operations) context) := by
  intro rejected
  have accepts : (((EngineImpl.perform runtime (load runtime impl (.ok container)).1
      (.load (.ok earlier))).checkAuthority runtime context).2.accepted) = true := by
    decide +kernel
  have refused := rejected load_accepts [.load (.ok earlier)] (by simp)
  unfold Rejects at refused
  rw [Runs.run_cons, Runs.run_nil, accepts] at refused
  cases refused

end ForgottenPublisher

end PortFabric
