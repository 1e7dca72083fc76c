import PortFabric.Engine.MutationProperties
import PortFabric.Engine.OperationProperties

/-!
# Properties of the authority registry

The consistency of the publisher table, and what each operation on it does.
-/

set_option autoImplicit false

namespace PortFabric

/-- A publisher under one boot identity. -/
abbrev Incarnation := PublisherId × WorkerBootId

namespace EngineImpl

/-- The table holds the incarnation as the current one of its publisher, unfenced. -/
def Alive (impl : EngineImpl) (publisher : PublisherId) (boot : WorkerBootId) : Prop :=
  ∃ found, impl.publishers[publisher]? = some found ∧ found.boot = boot ∧ found.fenced = false

/-- Entries are stored under their own publisher, and unfenced ones carry the current epoch. -/
def PublishersConsistent (impl : EngineImpl) : Prop :=
  OrderedMap.Every
    (fun publisher found =>
      found.publisher = publisher ∧ (found.fenced = false → found.epoch = impl.epoch))
    impl.publishers

theorem PublishersConsistent.congr {before after : EngineImpl}
    (consistent : before.PublishersConsistent) (publishers : after.publishers = before.publishers)
    (epoch : after.epoch = before.epoch) : after.PublishersConsistent := by
  unfold PublishersConsistent at consistent ⊢
  rw [publishers, epoch]
  exact consistent

theorem Alive.congr {before after : EngineImpl} {publisher : PublisherId} {boot : WorkerBootId}
    (alive : before.Alive publisher boot) (publishers : after.publishers = before.publishers) :
    after.Alive publisher boot := by
  unfold Alive at alive ⊢
  rw [publishers]
  exact alive

theorem alive_authorised {runtime : Runtime} {impl : EngineImpl} {mutation : Mutation}
    (accepted : (impl.checkAuthority runtime mutation.authority).2.isOk = true) :
    (impl.authorised runtime mutation).Alive mutation.authority.publisher
      mutation.authority.boot := by
  obtain ⟨_, _, ⟨found, present, boot, unfenced, same⟩ | ⟨_, _, _, registered⟩⟩ :=
    checkAuthority_ok accepted
  · rw [authorised, same]
    exact ⟨found, present, boot, unfenced⟩
  · rw [authorised, registered]
    exact ⟨_, OrderedMap.lookup_insert_self .., rfl, rfl⟩

theorem authorised_publisher {runtime : Runtime} {impl : EngineImpl} {mutation : Mutation}
    {publisher : PublisherId} {found : PublisherRecord}
    (present : impl.publishers[publisher]? = some found) :
    (impl.authorised runtime mutation).publishers[publisher]? = some found := by
  rcases checkAuthority_eq runtime impl mutation.authority with same | accepted
  · rw [EngineImpl.authorised, same]
    exact present
  · obtain ⟨_, _, ⟨_, _, _, _, same⟩ | ⟨absent, _, _, registered⟩⟩ := checkAuthority_ok accepted
    · rw [EngineImpl.authorised, same]
      exact present
    · have different : mutation.authority.publisher ≠ publisher := by
        intro same
        subst same
        rw [absent] at present
        cases present
      rw [EngineImpl.authorised, registered]
      exact (OrderedMap.lookup_insert_of_ne different).trans present

theorem Alive.authorised {runtime : Runtime} {impl : EngineImpl} {mutation : Mutation}
    {publisher : PublisherId} {boot : WorkerBootId} (alive : impl.Alive publisher boot) :
    (impl.authorised runtime mutation).Alive publisher boot := by
  obtain ⟨found, present, current⟩ := alive
  exact ⟨found, authorised_publisher present, current⟩

/-- The authority gate changes nothing for an incarnation that is registered already. -/
theorem Alive.authorised_eq {runtime : Runtime} {impl : EngineImpl} {mutation : Mutation}
    (alive : impl.Alive mutation.authority.publisher mutation.authority.boot) :
    impl.authorised runtime mutation = impl := by
  rcases checkAuthority_eq runtime impl mutation.authority with same | accepted
  · exact same
  · obtain ⟨_, _, ⟨_, _, _, _, same⟩ | ⟨absent, _⟩⟩ := checkAuthority_ok accepted
    · exact same
    · obtain ⟨_, present, _⟩ := alive
      rw [absent] at present
      cases present

theorem executeMutation_publisher {runtime : Runtime} {impl : EngineImpl} {mutation : Mutation}
    {answers : MutationAnswers} {publisher : PublisherId} {found : PublisherRecord}
    (present : impl.publishers[publisher]? = some found) :
    (executeMutation runtime mutation answers impl).1.publishers[publisher]? = some found := by
  have effect := executeMutation_effect runtime mutation answers impl
  generalize (executeMutation runtime mutation answers impl).1 = after at effect ⊢
  have kept : (impl.authorised runtime mutation).publishers[publisher]? = some found :=
    authorised_publisher present
  cases effect with
  | unrecorded _ _ frame =>
      rcases frame with rfl | rfl
      · exact present
      · exact kept
  | committed _ => simpa using kept
  | doubted _ => simpa using kept

/-- Where publishers have to register, a mutation adds none. -/
theorem executeMutation_publishers (runtime : Runtime) (impl : EngineImpl) (mutation : Mutation)
    (answers : MutationAnswers) (explicit : runtime.config.publisherRegistration = .explicit) :
    (executeMutation runtime mutation answers impl).1.publishers = impl.publishers := by
  have effect := executeMutation_effect runtime mutation answers impl
  generalize (executeMutation runtime mutation answers impl).1 = after at effect ⊢
  have kept : impl.authorised runtime mutation = impl := by
    rcases checkAuthority_eq runtime impl mutation.authority with same | accepted
    · exact same
    · obtain ⟨_, _, ⟨_, _, _, _, same⟩ | ⟨_, automatic, _⟩⟩ := checkAuthority_ok accepted
      · exact same
      · exact absurd explicit automatic
  cases effect with
  | unrecorded _ _ frame =>
      rcases frame with rfl | rfl
      · rfl
      · rw [kept]
  | committed _ => simp [kept]
  | doubted _ => simp [kept]

structure Registrable (impl : EngineImpl) (publisher : PublisherId) (boot : WorkerBootId)
    (epoch : CoordinatorEpoch) : Prop where
  publisherNamed : publisher.valid = true
  bootNamed : boot.valid = true
  epochNamed : epoch.valid = true
  current : epoch = impl.epoch
  room : impl.publishers[publisher]? = none → impl.publishers.size < maxPublishers
  replaces : ∀ existing, impl.publishers[publisher]? = some existing → existing.boot ≠ boot

/-- A registration is refused, or makes the incarnation the current one of its publisher. -/
theorem registerPublisher_effect {impl : EngineImpl} (consistent : impl.PublishersConsistent)
    (publisher : PublisherId) (boot : WorkerBootId) (epoch : CoordinatorEpoch) :
    ((PortFabricEngine.registerPublisher impl publisher boot epoch).1 = impl ∧
        (PortFabricEngine.registerPublisher impl publisher boot epoch).2.isOk = false ∧
        ¬impl.Registrable publisher boot epoch) ∨
      ∃ entry : PublisherRecord,
        (PortFabricEngine.registerPublisher impl publisher boot epoch).1 =
            { impl with publishers := impl.publishers.insert publisher entry } ∧
          (PortFabricEngine.registerPublisher impl publisher boot epoch).2.isOk = true ∧
          impl.Registrable publisher boot epoch ∧ entry.publisher = publisher ∧
          entry.boot = boot ∧ entry.fenced = false ∧ entry.epoch = impl.epoch := by
  unfold PortFabricEngine.registerPublisher
  dsimp only
  split
  · next incomplete =>
      refine .inl ⟨rfl, rfl, fun accepted => ?_⟩
      simp [accepted.publisherNamed, accepted.bootNamed, accepted.epochNamed] at incomplete
  · next complete =>
      simp only [Bool.or_eq_true, Bool.not_eq_true', not_or, Bool.not_eq_false] at complete
      obtain ⟨⟨publisherValid, bootValid⟩, epochValid⟩ := complete
      split
      · next stale => exact .inl ⟨rfl, rfl, fun accepted => stale accepted.current⟩
      · next current =>
          have same : epoch = impl.epoch := by simpa using current
          split
          · next absent =>
              split
              · next full =>
                  exact .inl ⟨rfl, rfl, fun accepted => absurd (accepted.room absent) (by omega)⟩
              · next room =>
                  refine .inr ⟨_, rfl, rfl, ⟨publisherValid, bootValid, epochValid, same, ?_, ?_⟩,
                    rfl, rfl, rfl, same⟩
                  · exact fun _ => by omega
                  · intro existing present
                    rw [absent] at present
                    cases present
          · next existing present =>
              obtain ⟨stored, current⟩ := consistent publisher existing present
              split
              · next again =>
                  have refused : ¬impl.Registrable publisher boot epoch :=
                    fun accepted => accepted.replaces existing present again
                  split
                  · exact .inl ⟨rfl, rfl, refused⟩
                  · exact .inl ⟨rfl, rfl, refused⟩
              · next replaced =>
                  have accepted : impl.Registrable publisher boot epoch := by
                    refine ⟨publisherValid, bootValid, epochValid, same, ?_, ?_⟩
                    · intro absent
                      rw [present] at absent
                      cases absent
                    · intro other found
                      rw [present] at found
                      cases found
                      exact replaced
                  split
                  · exact .inr ⟨_, rfl, rfl, accepted, stored, rfl, rfl, same⟩
                  · next earlier =>
                      split
                      · exact .inr ⟨_, rfl, rfl, accepted, stored, rfl, rfl, same⟩
                      · next unfenced =>
                          exact absurd ((current (by simpa using unfenced)).trans same.symm) earlier

/-- A fence is refused, or fences the current incarnation and releases what it owns. -/
theorem fencePublisher_effect_cases (impl : EngineImpl) (publisher : PublisherId)
    (boot : WorkerBootId) :
    ((PortFabricEngine.fencePublisher impl publisher boot).1 = impl ∧
        (PortFabricEngine.fencePublisher impl publisher boot).2.isOk = false) ∨
      ∃ existing : PublisherRecord,
        impl.publishers[publisher]? = some existing ∧ existing.fenced = false ∧
          (boot.valid = true → existing.boot = boot) ∧
          (PortFabricEngine.fencePublisher impl publisher boot).2.isOk = true ∧
          (PortFabricEngine.fencePublisher impl publisher boot).1 =
            ({ impl with
                publishers := impl.publishers.insert publisher { existing with fenced := true }
                : EngineImpl }).releaseOwnershipOf existing.publisher existing.boot := by
  unfold PortFabricEngine.fencePublisher
  split
  · exact .inl ⟨rfl, rfl⟩
  · split
    · exact .inl ⟨rfl, rfl⟩
    · next existing present =>
        split
        · exact .inl ⟨rfl, rfl⟩
        · next addressed =>
            split
            · exact .inl ⟨rfl, rfl⟩
            · next unfenced =>
                refine .inr ⟨existing, present, by simpa using unfenced, ?_, rfl, rfl⟩
                intro valid
                by_contra other
                exact addressed (by simp [valid, other])

/-- A new epoch is refused, or fences the publishers of the epochs before it. -/
theorem beginEpoch_effect_cases (impl : EngineImpl) :
    ((PortFabricEngine.beginEpoch impl).1 = impl ∧
        (PortFabricEngine.beginEpoch impl).2.isOk = false) ∨
      impl.epoch.valid = true ∧ impl.epoch < impl.epoch.next ∧
        (PortFabricEngine.beginEpoch impl).2.isOk = true ∧
        (PortFabricEngine.beginEpoch impl).1 =
          ({ impl with
              epoch := impl.epoch.next
              publishers := impl.publishers.map fun _ publisher =>
                fencedBefore impl.epoch.next publisher
              : EngineImpl }).releaseOwnershipBeforeEpoch impl.epoch.next := by
  unfold PortFabricEngine.beginEpoch
  split
  · exact .inl ⟨rfl, rfl⟩
  · next established =>
      split
      · exact .inl ⟨rfl, rfl⟩
      · next room =>
          exact .inr ⟨by simpa using established, Generation.lt_next (by simpa using room), rfl,
            rfl⟩

theorem recoverAuthority_publishers (impl : EngineImpl) (state : PersistedState)
    (epoch : CoordinatorEpoch) :
    OrderedMap.Every
      (fun publisher (found : PublisherRecord) =>
        found.publisher = publisher ∧ found.fenced = true)
      (impl.recoverAuthority state epoch).publishers := by
  have restored (publishers : Std.ExtTreeMap PublisherId PublisherRecord)
      (every : OrderedMap.Every
        (fun publisher (found : PublisherRecord) =>
          found.publisher = publisher ∧ found.fenced = true) publishers)
      (persisted : List PublisherRecord) :
      OrderedMap.Every
        (fun publisher (found : PublisherRecord) =>
          found.publisher = publisher ∧ found.fenced = true)
        (persisted.foldl (fun publishers publisher =>
          publishers.insert publisher.publisher { publisher with fenced := true }) publishers) := by
    induction persisted generalizing publishers with
    | nil => exact every
    | cons publisher rest ih => exact ih _ (every.insert ⟨rfl, rfl⟩)
  exact restored ∅ OrderedMap.Every.empty state.publishers

section Consistency

variable {runtime : Runtime} {impl : EngineImpl}

theorem PublishersConsistent.authorised {mutation : Mutation}
    (consistent : impl.PublishersConsistent) :
    (impl.authorised runtime mutation).PublishersConsistent := by
  rcases checkAuthority_eq runtime impl mutation.authority with same | accepted
  · rw [EngineImpl.authorised, same]
    exact consistent
  · obtain ⟨_, current, ⟨_, _, _, _, same⟩ | ⟨_, _, _, registered⟩⟩ := checkAuthority_ok accepted
    · rw [EngineImpl.authorised, same]
      exact consistent
    · rw [EngineImpl.authorised, registered]
      exact OrderedMap.Every.insert consistent ⟨rfl, fun _ => current⟩

theorem PublishersConsistent.executeMutation {mutation : Mutation} {answers : MutationAnswers}
    (consistent : impl.PublishersConsistent) :
    (executeMutation runtime mutation answers impl).1.PublishersConsistent := by
  have effect := executeMutation_effect runtime mutation answers impl
  generalize (PortFabric.executeMutation runtime mutation answers impl).1 = after at effect ⊢
  have authorised : (impl.authorised runtime mutation).PublishersConsistent :=
    consistent.authorised
  cases effect with
  | unrecorded _ _ frame =>
      rcases frame with rfl | rfl
      · exact consistent
      · exact authorised
  | committed _ => exact authorised.congr (by simp) (by simp)
  | doubted _ => exact authorised.congr (by simp) (by simp)

/-- Every operation keeps the publisher table consistent. -/
theorem PublishersConsistent.perform (consistent : impl.PublishersConsistent)
    (operation : Operation) : (impl.perform runtime operation).PublishersConsistent := by
  have frame := perform_setting runtime impl operation
  cases operation with
  | bindPort request answers =>
      obtain ⟨_, publishers, epoch⟩ := bindPort_effect runtime impl request answers
      exact consistent.congr publishers epoch
  | mutate mutation answers => exact consistent.executeMutation
  | beginEpoch =>
      obtain ⟨same, _⟩ | ⟨_, later, _, after⟩ := beginEpoch_effect_cases impl
      · rw [EngineImpl.perform, same]
        exact consistent
      · rw [EngineImpl.perform, after]
        intro publisher found present
        simp only [releaseOwnershipBeforeEpoch, releaseWhere_publishers, OrderedMap.lookup_map,
          Option.map_eq_some_iff] at present
        obtain ⟨before, present, rfl⟩ := present
        obtain ⟨stored, current⟩ := consistent publisher before present
        unfold fencedBefore
        split
        · exact ⟨stored, fun unfenced => by cases unfenced⟩
        · next kept =>
            refine ⟨stored, fun unfenced => ?_⟩
            rw [current unfenced] at kept
            exact absurd later kept
  | registerPublisher publisher boot epoch =>
      obtain ⟨same, _⟩ | ⟨entry, after, _, _, stored, _, _, current⟩ :=
        registerPublisher_effect consistent publisher boot epoch
      · rw [EngineImpl.perform, same]
        exact consistent
      · rw [EngineImpl.perform, after]
        exact OrderedMap.Every.insert consistent ⟨stored, fun _ => current⟩
  | fencePublisher publisher boot =>
      obtain ⟨same, _⟩ | ⟨existing, present, _, _, _, after⟩ :=
        fencePublisher_effect_cases impl publisher boot
      · rw [EngineImpl.perform, same]
        exact consistent
      · rw [EngineImpl.perform, after]
        exact OrderedMap.Every.insert consistent
          ⟨(consistent publisher existing present).1, fun unfenced => by cases unfenced⟩
  | load container =>
      obtain ⟨_, _, same⟩ | ⟨state, _, loaded⟩ := load_effect runtime impl container
      · rw [EngineImpl.perform, same]
        exact consistent.congr rfl rfl
      · intro publisher found present
        rw [EngineImpl.perform, loaded.publishers] at present
        obtain ⟨stored, fenced⟩ := recoverAuthority_publishers impl state _ _ _ present
        exact ⟨stored, fun unfenced => by simp [fenced] at unfenced⟩
  | defineProfile | registerDevice | setTopologyGeneration | save | shutdown =>
      exact consistent.congr (frame rfl).publishers (frame rfl).epoch

end Consistency

end EngineImpl

def Rejects (runtime : Runtime) (impl : EngineImpl) (authority : AuthorityContext) : Prop :=
  (impl.checkAuthority runtime authority).2.accepted = false

section Gate

variable {runtime : Runtime} {impl : EngineImpl} {authority : AuthorityContext}

theorem rejects_of_not_ok (refused : (impl.checkAuthority runtime authority).2.isOk ≠ true) :
    Rejects runtime impl authority := by
  unfold Rejects
  unfold EngineImpl.checkAuthority at refused ⊢
  repeat' split
  all_goals first
    | rfl
    | simp_all [Outcome.success]

theorem rejects_stale (stale : authority.epoch < impl.epoch) : Rejects runtime impl authority := by
  apply rejects_of_not_ok
  intro accepted
  obtain ⟨_, current, _⟩ := EngineImpl.checkAuthority_ok accepted
  exact Generation.ne_of_lt stale current

theorem rejects_fenced {found : PublisherRecord}
    (present : impl.publishers[authority.publisher]? = some found)
    (fenced : found.fenced = true) : Rejects runtime impl authority := by
  apply rejects_of_not_ok
  intro accepted
  obtain ⟨_, _, ⟨other, again, _, unfenced, _⟩ | ⟨absent, _⟩⟩ :=
    EngineImpl.checkAuthority_ok accepted
  · rw [present] at again
    cases again
    simp [fenced] at unfenced
  · rw [present] at absent
    cases absent

end Gate

end PortFabric
