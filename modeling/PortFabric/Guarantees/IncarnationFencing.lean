import PortFabric.Engine.Fixture
import PortFabric.Engine.RecoveryProperties

/-!
# Incarnation fencing

An incarnation that was fenced or replaced is refused by the authority gate for
the rest of the run, as long as no registration and no recovery readmits it.
-/

set_option autoImplicit false

namespace PortFabric

/-- The incarnation an accepted operation fences or replaces. -/
def Operation.ends (impl : EngineImpl) : Operation → Option Incarnation
  | .fencePublisher publisher boot =>
      if (PortFabricEngine.fencePublisher impl publisher boot).2.isOk then
        (impl.publishers[publisher]?).map fun existing => (publisher, existing.boot)
      else none
  | .registerPublisher publisher boot epoch =>
      if (PortFabricEngine.registerPublisher impl publisher boot epoch).2.isOk then
        (impl.publishers[publisher]?).bind fun existing =>
          if existing.boot = boot then none else some (publisher, existing.boot)
      else none
  | _ => none

/-- An engine with the incarnations that ended in the run so far. -/
structure Chronicle where
  engine : EngineImpl
  ended : List Incarnation := []

def Chronicle.step (runtime : Runtime) (chronicle : Chronicle) (operation : Operation) :
    Chronicle where
  engine := chronicle.engine.perform runtime operation
  ended := (operation.ends chronicle.engine).toList ++ chronicle.ended

namespace EngineImpl

variable {runtime : Runtime} {impl : EngineImpl} {publisher : PublisherId} {boot : WorkerBootId}

/-- The gate accepts some context of the incarnation. -/
def Accepts (runtime : Runtime) (impl : EngineImpl) (publisher : PublisherId)
    (boot : WorkerBootId) : Prop :=
  ∃ authority : AuthorityContext, authority.publisher = publisher ∧ authority.boot = boot ∧
    (impl.checkAuthority runtime authority).2.isOk = true

/-- The publisher table admits the incarnation, or lets it register itself. -/
def Admits (runtime : Runtime) (impl : EngineImpl) (publisher : PublisherId)
    (boot : WorkerBootId) : Prop :=
  (∀ found, impl.publishers[publisher]? = some found →
      found.boot = boot ∧ found.fenced = false) ∧
    (impl.publishers[publisher]? = none →
      runtime.config.publisherRegistration ≠ .explicit ∧ impl.publishers.size < maxPublishers)

theorem checkAuthority_of_admits {authority : AuthorityContext} (valid : authority.valid = true)
    (current : authority.epoch = impl.epoch)
    (admits : impl.Admits runtime authority.publisher authority.boot) :
    (impl.checkAuthority runtime authority).2.isOk = true := by
  unfold checkAuthority
  simp only [valid, current, Bool.not_true, Bool.false_eq_true, if_false, ne_eq,
    not_true_eq_false]
  split
  · next absent =>
      obtain ⟨automatic, room⟩ := admits.2 absent
      simp [automatic, Nat.not_le.mpr room, Outcome.success]
  · next found present =>
      obtain ⟨sameBoot, unfenced⟩ := admits.1 found present
      simp [sameBoot, unfenced, Outcome.success]

theorem accepts_iff :
    impl.Accepts runtime publisher boot ↔
      impl.epoch.valid = true ∧ publisher.valid = true ∧ boot.valid = true ∧
        impl.Admits runtime publisher boot := by
  constructor
  · intro given
    rcases given with ⟨authority, rfl, rfl, accepted⟩
    obtain ⟨valid, current, table⟩ := checkAuthority_ok accepted
    simp only [AuthorityContext.valid, Bool.and_eq_true] at valid
    refine ⟨current ▸ valid.1.1.1, valid.1.1.2, valid.1.2, ?_⟩
    obtain ⟨found, present, sameBoot, unfenced, _⟩ | ⟨absent, automatic, room, _⟩ := table
    · refine ⟨fun other again => ?_, fun absent => ?_⟩
      · rw [present] at again
        cases again
        exact ⟨sameBoot, unfenced⟩
      · rw [present] at absent
        cases absent
    · refine ⟨fun other again => ?_, fun _ => ⟨automatic, room⟩⟩
      rw [absent] at again
      cases again
  · intro given
    rcases given with ⟨epoch, named, booted, admits⟩
    have attempt : (("attempt" : MutationAttemptId)).valid = true := rfl
    refine ⟨{ epoch := impl.epoch, publisher, boot, attempt := "attempt" }, rfl, rfl,
      checkAuthority_of_admits ?_ rfl admits⟩
    simp [AuthorityContext.valid, epoch, named, booted, attempt]

/-- A table that admits less, under an epoch that is valid no sooner, accepts less. -/
theorem Accepts.mono {after : EngineImpl}
    (accepts : after.Accepts runtime publisher boot)
    (epoch : after.epoch.valid = true → impl.epoch.valid = true)
    (admits : after.Admits runtime publisher boot → impl.Admits runtime publisher boot) :
    impl.Accepts runtime publisher boot := by
  rw [accepts_iff] at accepts ⊢
  exact ⟨epoch accepts.1, accepts.2.1, accepts.2.2.1, admits accepts.2.2.2⟩

theorem Accepts.congr {after : EngineImpl} (accepts : after.Accepts runtime publisher boot)
    (publishers : after.publishers = impl.publishers) (epoch : after.epoch = impl.epoch) :
    impl.Accepts runtime publisher boot := by
  refine accepts.mono (epoch ▸ id) fun admits => ?_
  unfold Admits at admits ⊢
  rw [← publishers]
  exact admits

theorem admits_insert {entry : PublisherRecord} {other : PublisherId}
    (admits : ({ impl with publishers := impl.publishers.insert publisher entry } :
      EngineImpl).Admits runtime other boot) :
    (other = publisher ∧ entry.boot = boot ∧ entry.fenced = false) ∨
      (other ≠ publisher ∧ impl.Admits runtime other boot) := by
  by_cases same : other = publisher
  · subst same
    exact .inl ⟨rfl, admits.1 entry (OrderedMap.lookup_insert_self ..)⟩
  · have kept : (impl.publishers.insert publisher entry)[other]? = impl.publishers[other]? :=
      OrderedMap.lookup_insert_of_ne (Ne.symm same)
    refine .inr ⟨same, fun found present => admits.1 found (kept.trans present),
      fun absent => ?_⟩
    obtain ⟨automatic, room⟩ := admits.2 (kept.trans absent)
    exact ⟨automatic, Nat.lt_of_le_of_lt Std.ExtTreeMap.size_le_size_insert room⟩

theorem Accepts.of_executeMutation {mutation : Mutation} {answers : MutationAnswers}
    (accepts : (executeMutation runtime mutation answers impl).1.Accepts runtime publisher boot) :
    impl.Accepts runtime publisher boot := by
  have registered (accepts : (impl.authorised runtime mutation).Accepts runtime publisher boot) :
      impl.Accepts runtime publisher boot := by
    rcases checkAuthority_eq runtime impl mutation.authority with same | accepted
    · rw [authorised, same] at accepts
      exact accepts
    · obtain ⟨_, _, ⟨_, _, _, _, same⟩ | ⟨_, _, _, inserted⟩⟩ := checkAuthority_ok accepted
      · rw [authorised, same] at accepts
        exact accepts
      · rw [authorised, inserted] at accepts
        obtain ⟨rfl, rfl, _⟩ | ⟨_, admits⟩ := admits_insert (accepts_iff.mp accepts).2.2.2
        · exact ⟨mutation.authority, rfl, rfl, accepted⟩
        · exact accepts.mono id fun _ => admits
  have effect := executeMutation_effect runtime mutation answers impl
  generalize (executeMutation runtime mutation answers impl).1 = after at effect accepts
  cases effect with
  | unrecorded _ _ frame =>
      rcases frame with rfl | rfl
      · exact accepts
      · exact registered accepts
  | committed _ => exact registered (accepts.congr (by simp) (by simp))
  | doubted _ => exact registered (accepts.congr (by simp) (by simp))

theorem Accepts.of_beginEpoch
    (accepts : (PortFabricEngine.beginEpoch impl).1.Accepts runtime publisher boot) :
    impl.Accepts runtime publisher boot := by
  obtain ⟨same, _⟩ | ⟨established, _, _, after⟩ := beginEpoch_effect_cases impl
  · rw [same] at accepts
    exact accepts
  · rw [after] at accepts
    refine accepts.mono (fun _ => established) fun admits => ?_
    unfold Admits at admits ⊢
    simp only [releaseOwnershipBeforeEpoch, releaseWhere_publishers, OrderedMap.lookup_map,
      Option.map_eq_some_iff, Option.map_eq_none_iff, Std.ExtTreeMap.size_map] at admits
    refine ⟨fun found present => ?_, admits.2⟩
    obtain ⟨sameBoot, unfenced⟩ := admits.1 _ ⟨found, present, rfl⟩
    unfold fencedBefore at sameBoot unfenced
    split at unfenced
    · cases unfenced
    · next kept => exact ⟨by simpa [kept] using sameBoot, unfenced⟩

end EngineImpl

namespace Chronicle

variable {runtime : Runtime} {chronicle : Chronicle}

/-- The gate refuses every incarnation that ended. -/
def Refuses (runtime : Runtime) (chronicle : Chronicle) : Prop :=
  ∀ ended ∈ chronicle.ended, ¬chronicle.engine.Accepts runtime ended.1 ended.2

/--
No accepted registration names an incarnation that ended, and no recovery
forgets the publisher of one while publishers register themselves.
-/
def ReadmitsNone (runtime : Runtime) (chronicle : Chronicle) : Operation → Prop
  | .registerPublisher publisher boot epoch =>
      chronicle.engine.Registrable publisher boot epoch → (publisher, boot) ∉ chronicle.ended
  | .load container =>
      ∀ state, Recovers runtime chronicle.engine container state →
        runtime.config.publisherRegistration ≠ .explicit →
        (chronicle.engine.recoverAuthority state chronicle.engine.epoch).publishers.size <
          maxPublishers →
        ∀ ended ∈ chronicle.ended, ended.1.valid = true → ended.2.valid = true →
          ∃ persisted ∈ state.publishers, persisted.publisher = ended.1
  | _ => True

/-- An operation that ends nothing and accepts no more than before keeps the refusals. -/
private theorem refuses_of_quiet {operation : Operation} (refuses : chronicle.Refuses runtime)
    (quiet : operation.ends chronicle.engine = none)
    (accepts : ∀ publisher boot,
      (chronicle.engine.perform runtime operation).Accepts runtime publisher boot →
        chronicle.engine.Accepts runtime publisher boot) :
    (chronicle.step runtime operation).Refuses runtime := by
  intro incarnation ended accepted
  simp only [step, quiet, Option.toList_none, List.nil_append] at ended
  exact refuses incarnation ended (accepts _ _ accepted)

private theorem fence_refuses (refuses : chronicle.Refuses runtime) (publisher : PublisherId)
    (boot : WorkerBootId) :
    (chronicle.step runtime (.fencePublisher publisher boot)).Refuses runtime := by
  obtain ⟨same, refused⟩ | ⟨existing, present, _, _, accepted, after⟩ :=
    EngineImpl.fencePublisher_effect_cases chronicle.engine publisher boot
  · refine refuses_of_quiet refuses (by simp [Operation.ends, refused]) fun _ _ accepts => ?_
    rw [EngineImpl.perform, same] at accepts
    exact accepts
  · intro incarnation ended accepts
    simp only [step, Operation.ends, accepted, if_true, present, Option.map_some,
      Option.toList_some, List.cons_append, List.nil_append, List.mem_cons] at ended
    rw [step, EngineImpl.perform, after] at accepts
    have fenced : ({ chronicle.engine with
        publishers := chronicle.engine.publishers.insert publisher { existing with fenced := true }
        } : EngineImpl).Accepts runtime incarnation.1 incarnation.2 :=
      accepts.congr rfl rfl
    obtain ⟨_, _, unfenced⟩ | ⟨other, admits⟩ :=
      EngineImpl.admits_insert (EngineImpl.accepts_iff.mp fenced).2.2.2
    · cases unfenced
    · rcases ended with rfl | ended
      · exact other rfl
      · exact refuses incarnation ended (fenced.mono id fun _ => admits)

/-- A registration keeps the refusals exactly when it names no incarnation that ended. -/
private theorem register_refuses_iff (consistent : chronicle.engine.PublishersConsistent)
    (refuses : chronicle.Refuses runtime) (publisher : PublisherId) (boot : WorkerBootId)
    (epoch : CoordinatorEpoch) :
    (chronicle.step runtime (.registerPublisher publisher boot epoch)).Refuses runtime ↔
      ReadmitsNone runtime chronicle (.registerPublisher publisher boot epoch) := by
  obtain ⟨same, refused, unregistrable⟩ |
      ⟨entry, after, accepted, registrable, _, named, free, _⟩ :=
    EngineImpl.registerPublisher_effect consistent publisher boot epoch
  · refine iff_of_true ?_ fun registrable => absurd registrable unregistrable
    refine refuses_of_quiet refuses (by simp [Operation.ends, refused]) fun _ _ accepts => ?_
    rw [EngineImpl.perform, same] at accepts
    exact accepts
  · have state : (chronicle.step runtime (.registerPublisher publisher boot epoch)).engine =
        { chronicle.engine with
          publishers := chronicle.engine.publishers.insert publisher entry } := after
    constructor
    · intro afterwards _ ended
      apply afterwards (publisher, boot) (List.mem_append_right _ ended)
      rw [state, EngineImpl.accepts_iff]
      refine ⟨registrable.current ▸ registrable.epochNamed, registrable.publisherNamed,
        registrable.bootNamed, fun found present => ?_, fun absent => ?_⟩
      · rw [OrderedMap.lookup_insert_self] at present
        cases present
        exact ⟨named, free⟩
      · rw [OrderedMap.lookup_insert_self] at absent
        cases absent
    · intro readmits incarnation ended accepts
      rw [state] at accepts
      obtain ⟨samePublisher, sameBoot, _⟩ | ⟨other, admits⟩ :=
        EngineImpl.admits_insert (EngineImpl.accepts_iff.mp accepts).2.2.2
      · have same : incarnation = (publisher, boot) :=
          Prod.ext samePublisher (sameBoot.symm.trans named)
        rcases List.mem_append.mp ended with replaced | ended
        · simp only [Operation.ends, accepted, if_true, Option.mem_toList,
            Option.bind_eq_some_iff] at replaced
          obtain ⟨existing, _, replaced⟩ := replaced
          split at replaced
          · cases replaced
          · next different =>
              cases replaced
              exact different (congrArg Prod.snd same)
        · exact readmits registrable (same ▸ ended)
      · rcases List.mem_append.mp ended with replaced | ended
        · simp only [Operation.ends, accepted, if_true, Option.mem_toList,
            Option.bind_eq_some_iff] at replaced
          obtain ⟨existing, _, replaced⟩ := replaced
          split at replaced
          · cases replaced
          · cases replaced
            exact other rfl
        · exact refuses incarnation ended (accepts.mono id fun _ => admits)

/-- A recovery keeps the refusals exactly when it forgets no publisher it would let register. -/
private theorem load_refuses_iff (refuses : chronicle.Refuses runtime)
    (container : Except Outcome PersistedState) :
    (chronicle.step runtime (.load container)).Refuses runtime ↔
      ReadmitsNone runtime chronicle (.load container) := by
  obtain ⟨unread, _, same⟩ | ⟨state, recovers, loaded⟩ :=
    load_effect runtime chronicle.engine container
  · refine iff_of_true ?_ fun state recovers => absurd recovers (unread state)
    refine refuses_of_quiet refuses rfl fun _ _ accepts => ?_
    rw [EngineImpl.perform, same] at accepts
    exact accepts.congr rfl rfl
  · have publishers : (chronicle.step runtime (.load container)).engine.publishers =
        (chronicle.engine.recoverAuthority state chronicle.engine.epoch).publishers :=
      loaded.publishers
    have fenced := EngineImpl.recoverAuthority_publishers chronicle.engine state
      chronicle.engine.epoch
    constructor
    · intro afterwards other again automatic room incarnation ended named booted
      cases recovers.read.symm.trans again.read
      by_contra forgotten
      apply afterwards incarnation ended
      rw [EngineImpl.accepts_iff]
      have absent : (chronicle.step runtime (.load container)).engine.publishers[
          incarnation.1]? = none := by
        rw [publishers, EngineImpl.recoverAuthority_absent_iff]
        intro persisted held same
        exact forgotten ⟨persisted, held, same⟩
      refine ⟨loaded.epoch, named, booted, fun found present => ?_, fun _ => ?_⟩
      · rw [absent] at present
        cases present
      · rw [publishers]
        exact ⟨automatic, room⟩
    · intro remembers incarnation ended accepts
      obtain ⟨_, named, booted, admits⟩ := EngineImpl.accepts_iff.mp accepts
      rw [EngineImpl.Admits, publishers] at admits
      cases present : (chronicle.engine.recoverAuthority state
          chronicle.engine.epoch).publishers[incarnation.1]? with
      | some found =>
          have unfenced := (admits.1 found present).2
          rw [(fenced _ _ present).2] at unfenced
          cases unfenced
      | none =>
          obtain ⟨automatic, room⟩ := admits.2 present
          obtain ⟨persisted, held, same⟩ :=
            remembers state recovers automatic room incarnation ended named booted
          exact EngineImpl.recoverAuthority_absent_iff.mp present persisted held same

/-- One operation keeps the refusals exactly when it readmits no incarnation. -/
theorem step_refuses_iff (consistent : chronicle.engine.PublishersConsistent)
    (refuses : chronicle.Refuses runtime) (operation : Operation) :
    (chronicle.step runtime operation).Refuses runtime ↔
      ReadmitsNone runtime chronicle operation := by
  have frame := perform_setting runtime chronicle.engine operation
  cases operation with
  | registerPublisher publisher boot epoch =>
      exact register_refuses_iff consistent refuses publisher boot epoch
  | load container => exact load_refuses_iff refuses container
  | fencePublisher publisher boot =>
      exact iff_of_true (fence_refuses refuses publisher boot) trivial
  | mutate mutation answers =>
      exact iff_of_true
        (refuses_of_quiet refuses rfl fun _ _ accepts => accepts.of_executeMutation) trivial
  | beginEpoch =>
      exact iff_of_true (refuses_of_quiet refuses rfl fun _ _ accepts => accepts.of_beginEpoch)
        trivial
  | bindPort request answers =>
      obtain ⟨_, publishers, epoch⟩ := bindPort_effect runtime chronicle.engine request answers
      exact iff_of_true
        (refuses_of_quiet refuses rfl fun _ _ accepts => accepts.congr publishers epoch)
        trivial
  | defineProfile | registerDevice | setTopologyGeneration | save | shutdown =>
      refine iff_of_true (refuses_of_quiet refuses rfl fun _ _ accepts => ?_) trivial
      exact accepts.congr (frame rfl).publishers (frame rfl).epoch

end Chronicle

/--
Along a run on a fresh engine, the gate refuses every incarnation that was
fenced or replaced exactly when no operation readmits one.
-/
theorem ended_refused_throughout_iff (runtime : Runtime) (operations : List Operation) :
    Runs.Throughout (Chronicle.step runtime) (Chronicle.Refuses runtime)
        { engine := .initial runtime.config } operations ↔
      Runs.Along (Chronicle.step runtime) (Chronicle.ReadmitsNone runtime)
        { engine := .initial runtime.config } operations := by
  have consistent : (EngineImpl.initial runtime.config).PublishersConsistent :=
    OrderedMap.Every.empty
  have supported (chronicle : Chronicle) (operation : Operation)
      (consistent : chronicle.engine.PublishersConsistent) (_ : chronicle.Refuses runtime)
      (_ : chronicle.ReadmitsNone runtime operation) :
      (chronicle.step runtime operation).engine.PublishersConsistent :=
    consistent.perform operation
  exact Runs.throughout_iff_along supported
    (fun _ operation consistent refuses =>
      Chronicle.step_refuses_iff consistent refuses operation)
    consistent (fun _ ended => absurd ended List.not_mem_nil)

namespace ReturningBoot

/-- A publisher registers a second boot identity and then its first one again. -/
def operations : List Operation :=
  [ .registerPublisher "agent-a" "boot-1" .first,
    .registerPublisher "agent-a" "boot-2" .first,
    .registerPublisher "agent-a" "boot-1" .first ]

/-- The replaced incarnation is accepted again. -/
theorem replaced_incarnation_accepted :
    ¬(Runs.run (Chronicle.step Fixture.runtime) { engine := .initial Fixture.runtime.config }
      operations).Refuses Fixture.runtime := by
  intro refuses
  refine refuses ("agent-a", "boot-1") (by decide +kernel)
    ⟨{ epoch := .first, publisher := "agent-a", boot := "boot-1", attempt := "attempt-1" },
      rfl, rfl, by decide +kernel⟩

end ReturningBoot

end PortFabric
