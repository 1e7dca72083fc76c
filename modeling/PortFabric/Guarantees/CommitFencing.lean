import PortFabric.Engine.AuthorityProperties
import PortFabric.Engine.Fixture
import PortFabric.Engine.InterleavingProperties

/-!
# Commit fencing

Authority is checked in one critical section and used in a later one. A fence in
between is noticed by the commit through the ownership counter alone, so it
reaches exactly the mutations in flight on ports the fence releases.
-/

set_option autoImplicit false

namespace PortFabric

namespace Operation

variable (impl : EngineImpl)

/-- The incarnations an accepted operation fences. -/
def fences : Operation → List Incarnation
  | .fencePublisher publisher boot =>
      if (PortFabricEngine.fencePublisher impl publisher boot).2.isOk then
        ((impl.publishers[publisher]?).map fun existing => (publisher, existing.boot)).toList
      else []
  | .beginEpoch =>
      if (PortFabricEngine.beginEpoch impl).2.isOk then
        impl.publishers.toList.map fun entry => (entry.1, entry.2.boot)
      else []
  | _ => []

/-- The operation fences the incarnation, or ends the epoch of all of them. -/
def endsIncarnation (publisher : PublisherId) (boot : WorkerBootId) : Operation → Bool
  | .fencePublisher fenced addressed =>
      decide ((publisher, boot) ∈ (Operation.fencePublisher fenced addressed).fences impl)
  | .beginEpoch => (PortFabricEngine.beginEpoch impl).2.isOk
  | _ => false

end Operation

/-- The flight passed its authority section and can still commit. -/
def Flight.mayCommit : Flight → Bool
  | .authority _ => false
  | .conclude _ _ _ (.commit _ _ _) => true
  | .conclude _ _ _ _ => false
  | .persist _ _ => false
  | _ => true

theorem Flight.unsettled_of_mayCommit {flight : Flight} (commits : flight.mayCommit = true) :
    flight.unsettled = true := by
  cases flight with
  | persist mutation settlement => cases commits
  | _ => rfl

/-- A flight that can commit could before its section, or just passed the authority section. -/
theorem Flight.mayCommit_before {runtime : Runtime} {answers : MutationAnswers}
    {impl after : EngineImpl} {flight next : Flight}
    (advanced : flight.advance runtime answers impl = (after, .ok next))
    (commits : next.mayCommit = true) :
    flight.mayCommit = true ∨
      ∃ mutation, flight = .authority mutation ∧
        (impl.checkAuthority runtime mutation.authority).2.isOk = true := by
  cases flight with
  | authority mutation =>
      refine .inr ⟨mutation, rfl, ?_⟩
      by_contra refused
      simp only [advance, authorise, refused, Prod.mk.injEq] at advanced
      cases advanced.2
  | conclude mutation snapshot applied decision =>
      obtain ⟨_, rfl⟩ := conclude_next advanced
      cases commits
  | persist mutation settlement => cases settlement <;> cases advanced
  | _ => exact .inl rfl

/-- Ownership counters can advance. -/
def System.OwnershipRoom (system : System) : Prop :=
  ∀ (port : PortId) (record : PortRecord), system.engine.records[port]? = some record →
    record.generations.ownership.exhaustible = false

/-- A system with the incarnations fenced so far. -/
structure FencedSystem where
  system : System
  fenced : List Incarnation := []

namespace FencedSystem

abbrev engine (state : FencedSystem) : EngineImpl := state.system.engine

def step (runtime : Runtime) (state : FencedSystem) (action : Action) : FencedSystem where
  system := state.system.step runtime action
  fenced :=
    match action with
    | .operate operation => operation.fences state.engine ++ state.fenced
    | _ => state.fenced

/-- The incarnation was not fenced, and its epoch is the current one. -/
def Current (state : FencedSystem) (publisher : PublisherId) (boot : WorkerBootId)
    (epoch : CoordinatorEpoch) : Prop :=
  (publisher, boot) ∉ state.fenced ∧ epoch = state.engine.epoch

def CallerCurrent (state : FencedSystem) (authority : AuthorityContext) : Prop :=
  state.Current authority.publisher authority.boot authority.epoch

/-- No port is owned by a fenced incarnation or under an earlier epoch. -/
def OwnersCurrent (state : FencedSystem) : Prop :=
  ∀ (port : PortId) (record : PortRecord) (ownership : PortOwnership),
    state.engine.records[port]? = some record → record.ownership = some ownership →
    state.Current ownership.publisher ownership.boot ownership.epoch

/-- The action stores no commit of a fenced incarnation or of an earlier epoch. -/
def CommitsCurrent (state : FencedSystem) (action : Action) : Prop :=
  ∀ thread answers mutation snapshot applied proposal evidence settled committed,
    action = .advance thread answers →
    state.system.flights thread =
      some (.conclude mutation snapshot applied (.commit proposal evidence settled)) →
    state.engine.commitRecord mutation.port proposal evidence settled = .ok committed →
    state.CallerCurrent mutation.authority

/-- The conditions under which the ownership counter reveals every fence. -/
structure Detects (state : FencedSystem) (action : Action) : Prop where
  /-- Ownership counters can advance. -/
  room : state.system.OwnershipRoom
  /-- A registration names no fenced incarnation. -/
  readmits : ∀ publisher boot epoch, action = .operate (.registerPublisher publisher boot epoch) →
    state.engine.Registrable publisher boot epoch → (publisher, boot) ∉ state.fenced
  /-- A transfer that finds the record it expects names no fenced incarnation. -/
  delegates : ∀ thread answers request snapshot applied proposal evidence settled record,
    action = .advance thread answers →
    state.system.flights thread = some
      (.conclude (.transferOwnership request) snapshot applied
        (.commit proposal evidence settled)) →
    state.engine.records[request.envelope.port]? = some record →
    proposal.expected.matchesRecord record = true → request.delegates = true →
    (request.delegatePublisher, request.delegateBoot) ∉ state.fenced
  /-- A fence finds its mutations in flight on ports it releases, or that changed hands. -/
  inFlight : ∀ operation thread flight, action = .operate operation →
    state.system.flights thread = some flight → flight.mayCommit = true →
    operation.endsIncarnation state.engine flight.mutation.authority.publisher
      flight.mutation.authority.boot = true →
    ∃ snapshot record, flight.snapshot? = some snapshot ∧
      state.engine.records[flight.mutation.port]? = some record ∧
      ((∃ ownership, record.ownership = some ownership ∧
          operation.endsIncarnation state.engine ownership.publisher ownership.boot = true) ∨
        snapshot.generations.ownership < record.generations.ownership)

end FencedSystem

namespace PortRecord

/-- The ownership counter moved, or the ownership did not. -/
def Succeeds (before after : PortRecord) : Prop :=
  before.generations.ownership < after.generations.ownership ∨
    (after.generations.ownership = before.generations.ownership ∧
      after.ownership = before.ownership)

variable {first second third : PortRecord}

theorem Succeeds.refl (record : PortRecord) : record.Succeeds record := .inr ⟨rfl, rfl⟩

theorem Succeeds.le (succeeds : first.Succeeds second) :
    first.generations.ownership ≤ second.generations.ownership := by
  rcases succeeds with less | ⟨same, _⟩
  · exact Generation.le_of_lt less
  · rw [same]
    exact Generation.le_refl _

theorem Succeeds.trans (lower : first.Succeeds second) (upper : second.Succeeds third) :
    first.Succeeds third := by
  rcases lower with less | ⟨same, owner⟩
  · exact .inl (Generation.lt_of_lt_of_le less upper.le)
  · rcases upper with less | ⟨again, kept⟩
    · exact .inl (same ▸ less)
    · exact .inr ⟨again.trans same, kept.trans owner⟩

theorem released_succeeds {record : PortRecord} {reason detail : Text}
    (room : record.generations.ownership.exhaustible = false) :
    record.generations.ownership < (record.released reason detail).generations.ownership :=
  Generation.lt_advance room

end PortRecord

theorem OwnershipChange.succeeds {mutation : Mutation} {snapshot current final : PortRecord}
    (change : OwnershipChange mutation snapshot final)
    (counter : current.generations.ownership = snapshot.generations.ownership)
    (owner : current.ownership = snapshot.ownership)
    (room : current.generations.ownership.exhaustible = false) : current.Succeeds final := by
  have later : current.generations.ownership < snapshot.generations.ownership.advance := by
    rw [← counter]
    exact Generation.lt_advance room
  cases change with
  | kept ownership same => exact .inr ⟨same.trans counter.symm, ownership.trans owner.symm⟩
  | ended _ advanced => exact .inl (advanced ▸ later)
  | claimed _ _ _ advanced => exact .inl (advanced ▸ later)
  | transferred _ _ advanced => exact .inl (advanced ▸ later)

namespace System

/-- Every snapshot in flight is succeeded by the current record of its port. -/
def Follows (system : System) : Prop :=
  ∀ thread flight snapshot, system.flights thread = some flight →
    flight.snapshot? = some snapshot →
    ∃ record, system.engine.records[flight.mutation.port]? = some record ∧
      snapshot.Succeeds record

section Records

variable {runtime : Runtime} {system : System} {action : Action}

theorem Follows.commit (follows : system.Follows) {thread : Nat} {mutation : Mutation}
    {snapshot : PortRecord} {applied : Option AdapterApplyStatus} {proposal : MutationPlan}
    {evidence : AppliedEvidence} {settled : Bool} {committed : EngineImpl}
    (flying : system.flights thread =
      some (.conclude mutation snapshot applied (.commit proposal evidence settled)))
    (built : BuiltFrom runtime mutation snapshot proposal evidence settled)
    (stored : system.engine.commitRecord mutation.port proposal evidence settled = .ok committed) :
    ∃ current, system.engine.records[mutation.port]? = some current ∧
      current.generations.ownership = snapshot.generations.ownership ∧
      current.ownership = snapshot.ownership ∧
      proposal.expected.matchesRecord current = true ∧
      committed = system.engine.replaceRecord mutation.port current
        (EngineImpl.committedRecord proposal evidence settled) := by
  obtain ⟨current, found, _, expected, _, _, replaced⟩ := EngineImpl.commitRecord_ok stored
  have counter : current.generations.ownership = snapshot.generations.ownership :=
    (congrArg ExpectedState.ownership (built.expected.symm.trans expected)).symm
  obtain ⟨record, present, succeeds⟩ := follows thread _ snapshot flying rfl
  have same : record = current := Option.some.inj (present.symm.trans found)
  subst same
  refine ⟨record, found, counter, ?_, ExpectedState.matchesRecord_iff.mpr expected, replaced⟩
  rcases succeeds with less | ⟨_, owner⟩
  · exact absurd counter.symm (Generation.ne_of_lt less)
  · exact owner

theorem step_succeeds (sound : system.Sound runtime) (follows : system.Follows)
    (room : system.OwnershipRoom) (unloaded : action.isLoad = false) {port : PortId}
    {record : PortRecord} (found : system.engine.records[port]? = some record) :
    ∃ after, (system.step runtime action).engine.records[port]? = some after ∧
      record.Succeeds after := by
  obtain same | ⟨thread, answers, flight, rfl, flying, advanced⟩ |
      ⟨operation, rfl, outside, performed⟩ := step_engine runtime system action
  · exact ⟨record, same ▸ found, .refl record⟩
  · rw [advanced]
    have effect := flight.advance_effect runtime answers system.engine
    generalize (flight.advance runtime answers system.engine).1 = after at effect ⊢
    cases effect with
    | kept records => exact ⟨record, records ▸ found, .refl record⟩
    | @committed mutation snapshot applied proposal evidence settled _ stored =>
        have built : BuiltFrom runtime mutation snapshot proposal evidence settled :=
          sound thread _ flying
        obtain ⟨current, present, counter, owner, _, rfl⟩ := follows.commit flying built stored
        rw [EngineImpl.replaceRecord_records, OrderedMap.lookup_insert]
        split
        · next addressed =>
            subst addressed
            have same : current = record := Option.some.inj (present.symm.trans found)
            subst same
            exact ⟨_, rfl, built.ownership.succeeds counter owner (room _ _ found)⟩
        · exact ⟨record, found, .refl record⟩
    | @doubted mutation _ before _ _ _ _ _ present =>
        rw [EngineImpl.replaceRecord_records, OrderedMap.lookup_insert]
        split
        · next addressed =>
            subst addressed
            have same : before = record := Option.some.inj (present.symm.trans found)
            subst same
            exact ⟨_, rfl, .inr ⟨by simp, by simp⟩⟩
        · exact ⟨record, found, .refl record⟩
  · rw [performed]
    have effect : RecordsEffect operation system.engine.records
        (system.engine.perform runtime operation).records := perform_records outside unloaded
    generalize (system.engine.perform runtime operation).records = records at effect ⊢
    cases effect with
    | unchanged => exact ⟨record, found, .refl record⟩
    | @bound request answers evidence requested absent named validated =>
        rw [OrderedMap.lookup_insert]
        split
        · next addressed =>
            subst addressed
            rw [absent] at found
            cases found
        · exact ⟨record, found, .refl record⟩
    | released held texts =>
        rw [OrderedMap.lookup_map, found]
        refine ⟨_, rfl, ?_⟩
        dsimp only
        split
        · exact .inl (PortRecord.released_succeeds (room port record found))
        · exact .refl record

theorem Follows.step (follows : system.Follows) (sound : system.Sound runtime)
    (room : system.OwnershipRoom) (unloaded : action.isLoad = false) :
    (system.step runtime action).Follows := by
  intro thread flight snapshot flying carried
  have succeeded {port : PortId} {record : PortRecord}
      (found : system.engine.records[port]? = some record) (succeeds : snapshot.Succeeds record) :
      ∃ after, (system.step runtime action).engine.records[port]? = some after ∧
        snapshot.Succeeds after := by
    obtain ⟨after, present, later⟩ := step_succeeds sound follows room unloaded found
    exact ⟨after, present, succeeds.trans later⟩
  obtain ⟨kept, _⟩ | ⟨mutation, _, rfl, _⟩ | ⟨answers, before, after, _, found, advanced⟩ :=
    step_flights flying
  · obtain ⟨record, present, succeeds⟩ := follows thread flight snapshot kept carried
    exact succeeded present succeeds
  · cases carried
  · obtain ⟨sameMutation, _, snapshots⟩ := Flight.advance_next advanced
    rw [sameMutation]
    obtain earlier | ⟨current, _⟩ := snapshots snapshot carried
    · obtain ⟨record, present, succeeds⟩ := follows thread before snapshot found earlier
      exact succeeded present succeeds
    · exact succeeded current (.refl snapshot)

end Records

end System

namespace EngineImpl

/-- The table remembers the publisher, and not the incarnation as unfenced. -/
def Buried (impl : EngineImpl) (incarnation : Incarnation) : Prop :=
  ∃ found, impl.publishers[incarnation.1]? = some found ∧
    (found.boot = incarnation.2 → found.fenced = true)

variable {runtime : Runtime} {impl after : EngineImpl} {incarnation : Incarnation}

theorem Buried.congr (buried : impl.Buried incarnation)
    (publishers : after.publishers = impl.publishers) : after.Buried incarnation := by
  unfold Buried at buried ⊢
  rw [publishers]
  exact buried

theorem Buried.not_alive (buried : impl.Buried incarnation) :
    ¬impl.Alive incarnation.1 incarnation.2 := by
  intro given
  rcases given with ⟨other, again, boot, unfenced⟩
  obtain ⟨found, present, fenced⟩ := buried
  have same : found = other := Option.some.inj (present.symm.trans again)
  subst same
  rw [fenced boot] at unfenced
  cases unfenced

/-- The authority gate unearths nobody: it registers unknown publishers only. -/
theorem Buried.authorised {mutation : Mutation} (buried : impl.Buried incarnation) :
    (impl.authorised runtime mutation).Buried incarnation := by
  rcases checkAuthority_eq runtime impl mutation.authority with same | accepted
  · rw [EngineImpl.authorised, same]
    exact buried
  · obtain ⟨_, _, ⟨_, _, _, _, same⟩ | ⟨absent, _, _, registered⟩⟩ := checkAuthority_ok accepted
    · rw [EngineImpl.authorised, same]
      exact buried
    · obtain ⟨found, present, fenced⟩ := buried
      have different : mutation.authority.publisher ≠ incarnation.1 := by
        intro same
        rw [same, present] at absent
        cases absent
      rw [EngineImpl.authorised, registered]
      exact ⟨found, (OrderedMap.lookup_insert_of_ne different).trans present, fenced⟩

end EngineImpl

namespace FencedSystem

/-- The port's ownership counter moved since the snapshot of the flight. -/
def Overtaken (state : FencedSystem) (flight : Flight) : Prop :=
  ∃ snapshot record, flight.snapshot? = some snapshot ∧
    state.engine.records[flight.mutation.port]? = some record ∧
    snapshot.generations.ownership < record.generations.ownership

/-- What the steps that meet the conditions preserve. -/
structure Guarded (runtime : Runtime) (state : FencedSystem) : Prop where
  sound : state.system.Sound runtime
  follows : state.system.Follows
  consistent : state.engine.PublishersConsistent
  buried : ∀ incarnation ∈ state.fenced, state.engine.Buried incarnation
  owners : state.OwnersCurrent
  callers : ∀ thread flight, state.system.flights thread = some flight →
    flight.mayCommit = true →
    state.CallerCurrent flight.mutation.authority ∨ state.Overtaken flight

section Steps

variable {runtime : Runtime} {state : FencedSystem} {action : Action}

/-- A stored commit is not overtaken, so its caller is current. -/
theorem Guarded.commitsCurrent (guarded : state.Guarded runtime) :
    state.CommitsCurrent action := by
  intro thread answers mutation snapshot applied proposal evidence settled committed _ flying stored
  have built : BuiltFrom runtime mutation snapshot proposal evidence settled :=
    guarded.sound thread _ flying
  obtain ⟨current, found, counter, _⟩ := guarded.follows.commit flying built stored
  obtain current | ⟨other, record, carried, present, less⟩ :=
    guarded.callers thread _ flying rfl
  · exact current
  · cases carried
    have same : record = current := Option.some.inj (present.symm.trans found)
    subst same
    exact absurd counter.symm (Generation.ne_of_lt less)

theorem Guarded.overtaken_step (guarded : state.Guarded runtime) (room : state.system.OwnershipRoom)
    (unloaded : action.isLoad = false) {flight next : Flight} (overtaken : state.Overtaken flight)
    (kept : ∀ snapshot, flight.snapshot? = some snapshot → next.snapshot? = some snapshot)
    (same : next.mutation = flight.mutation) : (state.step runtime action).Overtaken next := by
  obtain ⟨snapshot, record, carried, found, less⟩ := overtaken
  obtain ⟨after, present, succeeds⟩ :=
    System.step_succeeds guarded.sound guarded.follows room unloaded found
  refine ⟨snapshot, after, kept snapshot carried, ?_, Generation.lt_of_lt_of_le less succeeds.le⟩
  rw [same]
  exact present

theorem endsIncarnation_of_fences {impl : EngineImpl} {operation : Operation}
    {incarnation : Incarnation} (fenced : incarnation ∈ operation.fences impl) :
    operation.endsIncarnation impl incarnation.1 incarnation.2 = true := by
  cases operation with
  | fencePublisher publisher boot => exact decide_eq_true fenced
  | beginEpoch =>
      simp only [Operation.fences] at fenced
      split at fenced
      · assumption
      · cases fenced
  | _ => cases fenced

theorem perform_epoch {impl : EngineImpl} {operation : Operation} {publisher : PublisherId}
    {boot : WorkerBootId} (outside : ∀ mutation answers, operation ≠ .mutate mutation answers)
    (unloaded : operation.isLoad = false)
    (spared : operation.endsIncarnation impl publisher boot = false) :
    (impl.perform runtime operation).epoch = impl.epoch := by
  have frame := perform_setting runtime impl operation
  cases operation with
  | bindPort request answers => exact (bindPort_effect runtime impl request answers).2.2
  | mutate mutation answers => exact absurd rfl (outside mutation answers)
  | beginEpoch =>
      obtain ⟨same, _⟩ | ⟨_, _, accepted, _⟩ := EngineImpl.beginEpoch_effect_cases impl
      · rw [EngineImpl.perform, same]
      · simp [Operation.endsIncarnation, accepted] at spared
  | registerPublisher publisher boot epoch =>
      obtain ⟨_, same⟩ := registerPublisher_frame impl publisher boot epoch
      rw [EngineImpl.perform, same]
  | fencePublisher publisher boot =>
      obtain ⟨same, _⟩ | ⟨_, _, _, _, _, after⟩ :=
        EngineImpl.fencePublisher_effect_cases impl publisher boot
      · rw [EngineImpl.perform, same]
      · rw [EngineImpl.perform, after]
        rfl
  | load container => simp [Operation.isLoad] at unloaded
  | defineProfile | registerDevice | setTopologyGeneration | save | shutdown =>
      exact (frame rfl).epoch

theorem Current.operate {operation : Operation} {publisher : PublisherId} {boot : WorkerBootId}
    {epoch : CoordinatorEpoch} (current : state.Current publisher boot epoch)
    (unloaded : operation.isLoad = false)
    (spared : operation.endsIncarnation state.engine publisher boot = false) :
    (state.step runtime (.operate operation)).Current publisher boot epoch := by
  refine ⟨fun fenced => ?_, current.2.trans ?_⟩
  · rcases List.mem_append.mp fenced with now | before
    · rw [endsIncarnation_of_fences now] at spared
      cases spared
    · exact current.1 before
  · obtain same | ⟨_, _, _, other, _⟩ | ⟨_, same, outside, performed⟩ :=
      System.step_engine runtime state.system (.operate operation)
    · exact (congrArg EngineImpl.epoch same).symm
    · cases other
    · cases same
      exact ((congrArg EngineImpl.epoch performed).trans
        (perform_epoch outside unloaded spared)).symm

/-- An operation that ends the owner of a record releases it. -/
theorem Guarded.released (guarded : state.Guarded runtime) {operation : Operation} {port : PortId}
    {record : PortRecord} {ownership : PortOwnership}
    (found : state.engine.records[port]? = some record)
    (owned : record.ownership = some ownership)
    (ends : operation.endsIncarnation state.engine ownership.publisher ownership.boot = true) :
    ∃ reason detail, (state.engine.perform runtime operation).records[port]? =
      some (record.released reason detail) := by
  cases operation with
  | fencePublisher publisher boot =>
      have fenced := of_decide_eq_true ends
      simp only [Operation.fences] at fenced
      obtain ⟨_, refused⟩ | ⟨existing, present, _, _, accepted, after⟩ :=
        EngineImpl.fencePublisher_effect_cases state.engine publisher boot
      · simp [refused] at fenced
      · simp only [accepted, if_true, present, Option.map_some, Option.toList_some,
          List.mem_singleton, Prod.mk.injEq] at fenced
        obtain ⟨samePublisher, sameBoot⟩ := fenced
        have stored := (guarded.consistent publisher existing present).1
        have held : record.ownedBy existing.publisher existing.boot = true := by
          simp [PortRecord.ownedBy, owned, samePublisher, sameBoot, stored]
        rw [EngineImpl.perform, after, EngineImpl.releaseOwnershipOf,
          EngineImpl.releaseWhere_lookup]
        simp only [found, Option.map_some, held, if_true]
        exact ⟨_, _, rfl⟩
  | beginEpoch =>
      obtain ⟨_, refused⟩ | ⟨_, later, _, after⟩ :=
        EngineImpl.beginEpoch_effect_cases state.engine
      · simp [Operation.endsIncarnation, refused] at ends
      · have earlier : ownership.epoch < state.engine.epoch.next := by
          rw [(guarded.owners port record ownership found owned).2]
          exact later
        have held : record.ownedBefore state.engine.epoch.next = true := by
          simp [PortRecord.ownedBefore, owned, earlier]
        rw [EngineImpl.perform, after, EngineImpl.releaseOwnershipBeforeEpoch,
          EngineImpl.releaseWhere_lookup]
        simp only [found, Option.map_some, held, if_true]
        exact ⟨_, _, rfl⟩
  | _ => cases ends

/-- After an operation every owner is current: an owner the operation ends is released. -/
private theorem Guarded.owners_operate (guarded : state.Guarded runtime) {operation : Operation}
    (outside : ∀ mutation answers, operation ≠ .mutate mutation answers)
    (unloaded : operation.isLoad = false)
    (performed : (state.step runtime (.operate operation)).engine =
      state.engine.perform runtime operation) :
    (state.step runtime (.operate operation)).OwnersCurrent := by
  intro port record ownership found owned
  rw [performed] at found
  have effect : RecordsEffect operation state.engine.records
      (state.engine.perform runtime operation).records := perform_records outside unloaded
  obtain ⟨source, present, same⟩ := effect.inherits port record ownership found owned
  have current := guarded.owners port source ownership present same
  cases ends : operation.endsIncarnation state.engine ownership.publisher ownership.boot with
  | false => exact current.operate unloaded ends
  | true =>
      obtain ⟨reason, detail, released⟩ := guarded.released present same ends
      rw [found] at released
      cases released
      cases owned

/-- After an operation every caller in flight is current, or the operation overtook it. -/
private theorem Guarded.callers_operate (guarded : state.Guarded runtime) {operation : Operation}
    (detects : state.Detects (.operate operation)) (unloaded : operation.isLoad = false)
    (performed : (state.step runtime (.operate operation)).engine =
      state.engine.perform runtime operation)
    {thread : Nat} {flight : Flight} (flying : state.system.flights thread = some flight)
    (commits : flight.mayCommit = true) :
    (state.step runtime (.operate operation)).CallerCurrent flight.mutation.authority ∨
      (state.step runtime (.operate operation)).Overtaken flight := by
  have unloaded' : (Action.operate operation).isLoad = false := unloaded
  have overtaken (before : state.Overtaken flight) :
      (state.step runtime (.operate operation)).Overtaken flight :=
    guarded.overtaken_step detects.room unloaded' before (fun _ => id) rfl
  obtain current | before := guarded.callers thread flight flying commits
  · cases ends : operation.endsIncarnation state.engine flight.mutation.authority.publisher
        flight.mutation.authority.boot with
    | false => exact .inl (current.operate unloaded ends)
    | true =>
        right
        obtain ⟨snapshot, record, carried, found, ⟨ownership, owned, owner⟩ | less⟩ :=
          detects.inFlight operation thread flight rfl flying commits ends
        · obtain ⟨following, present, succeeds⟩ :=
            guarded.follows thread flight snapshot flying carried
          have same : following = record := Option.some.inj (present.symm.trans found)
          subst same
          obtain ⟨reason, detail, released⟩ :=
            guarded.released found owned owner
          refine ⟨snapshot, following.released reason detail, carried, ?_, ?_⟩
          · rw [performed]
            exact released
          · exact Generation.lt_of_le_of_lt succeeds.le
              (PortRecord.released_succeeds (detects.room _ _ found))
        · exact overtaken ⟨snapshot, record, carried, found, less⟩
  · exact .inr (overtaken before)

private theorem Guarded.buried_operate (guarded : state.Guarded runtime) {operation : Operation}
    (detects : state.Detects (.operate operation)) (unloaded : operation.isLoad = false)
    (outside : ∀ mutation answers, operation ≠ .mutate mutation answers)
    {incarnation : Incarnation}
    (fenced : incarnation ∈ operation.fences state.engine ++ state.fenced) :
    (state.engine.perform runtime operation).Buried incarnation := by
  have quiet (none : operation.fences state.engine = []) :
      state.engine.Buried incarnation := by
    rw [none] at fenced
    exact guarded.buried incarnation fenced
  have frame := perform_setting runtime state.engine operation
  cases operation with
  | bindPort request answers =>
      exact (quiet rfl).congr (bindPort_effect runtime state.engine request answers).2.1
  | mutate mutation answers => exact absurd rfl (outside mutation answers)
  | beginEpoch =>
      obtain ⟨same, refused⟩ | ⟨_, later, accepted, after⟩ :=
        EngineImpl.beginEpoch_effect_cases state.engine
      · rw [EngineImpl.perform, same]
        exact quiet (by simp [Operation.fences, refused])
      · have stored : ∃ found, state.engine.publishers[incarnation.1]? = some found := by
          rcases List.mem_append.mp fenced with now | before
          · simp only [Operation.fences, accepted, if_true, List.mem_map] at now
            obtain ⟨entry, listed, rfl⟩ := now
            exact ⟨entry.2, OrderedMap.mem_toList.mp listed⟩
          · obtain ⟨found, present, _⟩ := guarded.buried incarnation before
            exact ⟨found, present⟩
        obtain ⟨found, present⟩ := stored
        rw [EngineImpl.perform, after]
        refine ⟨EngineImpl.fencedBefore state.engine.epoch.next found, ?_, fun _ => ?_⟩
        · simp only [EngineImpl.releaseOwnershipBeforeEpoch, EngineImpl.releaseWhere_publishers,
            OrderedMap.lookup_map, present, Option.map_some]
        · unfold EngineImpl.fencedBefore
          split
          · rfl
          · next kept =>
              by_contra unfenced
              rw [(guarded.consistent _ found present).2 (by simpa using unfenced)] at kept
              exact kept later
  | registerPublisher publisher boot epoch =>
      obtain ⟨same, _⟩ | ⟨entry, after, _, registrable, _, named, _⟩ :=
        EngineImpl.registerPublisher_effect guarded.consistent publisher boot epoch
      · rw [EngineImpl.perform, same]
        exact quiet rfl
      · have buried : incarnation ∈ state.fenced := fenced
        obtain ⟨found, present, alreadyFenced⟩ := guarded.buried incarnation buried
        have fresh := detects.readmits publisher boot epoch rfl registrable
        rw [EngineImpl.perform, after]
        unfold EngineImpl.Buried
        rw [OrderedMap.lookup_insert]
        split
        · next same =>
            refine ⟨entry, rfl, fun again => absurd buried ?_⟩
            have renamed : incarnation = (publisher, boot) :=
              Prod.ext same.symm (again.symm.trans named)
            rw [renamed]
            exact fresh
        · exact ⟨found, present, alreadyFenced⟩
  | fencePublisher publisher boot =>
      obtain ⟨same, refused⟩ | ⟨existing, present, _, _, accepted, after⟩ :=
        EngineImpl.fencePublisher_effect_cases state.engine publisher boot
      · rw [EngineImpl.perform, same]
        exact quiet (by simp [Operation.fences, refused])
      · rw [EngineImpl.perform, after]
        unfold EngineImpl.Buried
        simp only [EngineImpl.releaseOwnershipOf, EngineImpl.releaseWhere_publishers,
          OrderedMap.lookup_insert]
        split
        · exact ⟨_, rfl, fun _ => rfl⟩
        · next other =>
            rcases List.mem_append.mp fenced with now | before
            · simp only [Operation.fences, accepted, if_true, present, Option.map_some,
                Option.toList_some, List.mem_singleton] at now
              exact absurd (congrArg Prod.fst now).symm other
            · exact guarded.buried incarnation before
  | load container => simp [Operation.isLoad] at unloaded
  | defineProfile | registerDevice | setTopologyGeneration | save | shutdown =>
      exact (quiet rfl).congr (frame rfl).publishers

section Advance

variable {thread : Nat} {answers : MutationAnswers}

theorem advance_epoch :
    (state.step runtime (.advance thread answers)).engine.epoch = state.engine.epoch := by
  obtain same | ⟨_, _, flight, _, _, advanced⟩ | ⟨_, other, _⟩ :=
    System.step_engine runtime state.system (.advance thread answers)
  · exact congrArg EngineImpl.epoch same
  · exact (congrArg EngineImpl.epoch advanced).trans
      (flight.advance_tables runtime _ state.engine).1
  · cases other

theorem Current.advance {publisher : PublisherId} {boot : WorkerBootId} {epoch : CoordinatorEpoch}
    (current : state.Current publisher boot epoch) :
    (state.step runtime (.advance thread answers)).Current publisher boot epoch :=
  ⟨current.1, current.2.trans advance_epoch.symm⟩

private theorem advance_publishers :
    (state.step runtime (.advance thread answers)).engine.publishers = state.engine.publishers ∨
      ∃ mutation, (state.step runtime (.advance thread answers)).engine =
        state.engine.authorised runtime mutation := by
  obtain same | ⟨_, _, flight, _, _, advanced⟩ | ⟨_, other, _⟩ :=
    System.step_engine runtime state.system (.advance thread answers)
  · exact .inl (congrArg EngineImpl.publishers same)
  · obtain ⟨_, kept | ⟨mutation, _, authorised⟩⟩ :=
      flight.advance_tables runtime _ state.system.engine
    · exact .inl ((congrArg EngineImpl.publishers advanced).trans kept)
    · exact .inr ⟨mutation, advanced.trans authorised⟩
  · cases other

private theorem Guarded.consistent_advance (guarded : state.Guarded runtime) :
    (state.step runtime (.advance thread answers)).engine.PublishersConsistent := by
  obtain kept | ⟨mutation, authorised⟩ := advance_publishers
  · exact guarded.consistent.congr kept advance_epoch
  · rw [authorised]
    exact guarded.consistent.authorised

private theorem Guarded.buried_advance (guarded : state.Guarded runtime) :
    ∀ incarnation ∈ (state.step runtime (.advance thread answers)).fenced,
      (state.step runtime (.advance thread answers)).engine.Buried incarnation := by
  intro incarnation fenced
  have buried := guarded.buried incarnation fenced
  obtain kept | ⟨mutation, authorised⟩ := advance_publishers
  · exact buried.congr kept
  · rw [authorised]
    exact buried.authorised

private theorem Guarded.owner_committed (guarded : state.Guarded runtime)
    (detects : state.Detects (.advance thread answers)) {mutation : Mutation}
    {snapshot : PortRecord} {applied : Option AdapterApplyStatus} {proposal : MutationPlan}
    {evidence : AppliedEvidence} {settled : Bool} {committed : EngineImpl}
    (flying : state.system.flights thread =
      some (.conclude mutation snapshot applied (.commit proposal evidence settled)))
    (stored : state.engine.commitRecord mutation.port proposal evidence settled = .ok committed)
    {ownership : PortOwnership}
    (owned : (EngineImpl.committedRecord proposal evidence settled).ownership = some ownership) :
    state.Current ownership.publisher ownership.boot ownership.epoch := by
  have built : BuiltFrom runtime mutation snapshot proposal evidence settled :=
    guarded.sound thread _ flying
  obtain ⟨current, found, _, owner, matching, _⟩ := guarded.follows.commit flying built stored
  have caller : state.CallerCurrent mutation.authority :=
    guarded.commitsCurrent thread answers _ _ _ _ _ _ _ rfl flying stored
  cases built.ownership with
  | kept same _ =>
      rw [same, ← owner] at owned
      exact guarded.owners _ current ownership found owned
  | ended none _ =>
      rw [none] at owned
      cases owned
  | claimed requested own granted _ =>
      subst requested
      rw [granted] at owned
      cases owned
      simp only [grantedOwnership, own, Bool.false_eq_true, if_false]
      exact caller
  | @transferred request requested granted _ =>
      subst requested
      rw [granted] at owned
      cases owned
      cases delegates : request.delegates with
      | false =>
          simp only [grantedOwnership, delegates, Bool.false_eq_true, if_false]
          exact caller
      | true =>
          simp only [grantedOwnership, delegates, if_true]
          exact ⟨detects.delegates thread answers request snapshot applied proposal evidence settled
            current rfl flying found matching delegates, caller.2⟩

private theorem Guarded.owners_advance (guarded : state.Guarded runtime)
    (detects : state.Detects (.advance thread answers)) :
    (state.step runtime (.advance thread answers)).OwnersCurrent := by
  intro port record ownership found owned
  apply Current.advance
  obtain same | ⟨_, _, flight, moved, flying, advanced⟩ | ⟨_, other, _⟩ :=
    System.step_engine runtime state.system (.advance thread answers)
  · simp only [engine, FencedSystem.step, same] at found
    exact guarded.owners port record ownership found owned
  · cases moved
    simp only [engine, FencedSystem.step, advanced] at found
    have effect := flight.advance_effect runtime answers state.system.engine
    generalize (flight.advance runtime answers state.system.engine).1 = after at effect found
    cases effect with
    | kept records =>
        rw [records] at found
        exact guarded.owners port record ownership found owned
    | @committed mutation snapshot applied proposal evidence settled _ stored =>
        have replaced := stored
        obtain ⟨current, _, _, _, _, _, rfl⟩ := EngineImpl.commitRecord_ok replaced
        rw [EngineImpl.replaceRecord_records, OrderedMap.lookup_insert] at found
        split at found
        · cases found
          exact guarded.owner_committed detects flying stored owned
        · exact guarded.owners port record ownership found owned
    | @doubted mutation _ before _ _ _ _ _ present =>
        rw [EngineImpl.replaceRecord_records, OrderedMap.lookup_insert] at found
        split at found
        · cases found
          rw [PortRecord.uncertain_ownership] at owned
          exact guarded.owners _ before ownership present owned
        · exact guarded.owners port record ownership found owned
  · cases other

private theorem Guarded.callers_advance (guarded : state.Guarded runtime)
    (room : state.system.OwnershipRoom) {other : Nat} {flight : Flight}
    (flying : (state.step runtime (.advance thread answers)).system.flights other = some flight)
    (commits : flight.mayCommit = true) :
    (state.step runtime (.advance thread answers)).CallerCurrent flight.mutation.authority ∨
      (state.step runtime (.advance thread answers)).Overtaken flight := by
  have unloaded : (Action.advance thread answers).isLoad = false := rfl
  obtain ⟨kept, _⟩ | ⟨_, started, _⟩ | ⟨given, before, after, moved, found, advanced⟩ :=
    System.step_flights flying
  · obtain current | overtaken := guarded.callers other flight kept commits
    · exact .inl current.advance
    · exact .inr (guarded.overtaken_step room unloaded overtaken (fun _ => id) rfl)
  · cases started
  · cases moved
    obtain ⟨same, _, _⟩ := Flight.advance_next advanced
    have unsettled := Flight.unsettled_of_mayCommit commits
    obtain earlier | ⟨mutation, rfl, accepted⟩ := Flight.mayCommit_before advanced commits
    · obtain current | overtaken := guarded.callers thread before found earlier
      · rw [same]
        exact .inl current.advance
      · exact .inr (guarded.overtaken_step room unloaded overtaken
          (fun _ carried => Flight.advance_snapshot advanced carried unsettled) same)
    · rw [same]
      refine .inl (Current.advance ⟨fun fenced => ?_, ?_⟩)
      · exact (guarded.buried _ fenced).authorised.not_alive (EngineImpl.alive_authorised accepted)
      · exact (EngineImpl.checkAuthority_ok accepted).2.1

end Advance

/-- Every step that meets the conditions keeps the guard. -/
theorem Guarded.step (guarded : state.Guarded runtime) (detects : state.Detects action)
    (unloaded : action.isLoad = false) : (state.step runtime action).Guarded runtime := by
  have sound := guarded.sound.step action
  have follows := guarded.follows.step guarded.sound detects.room unloaded
  cases action with
  | start thread mutation =>
      -- A flight that starts has not passed the authority gate, so no caller is added.
      have engine : (state.step runtime (.start thread mutation)).engine = state.engine := by
        simp only [FencedSystem.step, System.step]
        split <;> rfl
      have current {publisher : PublisherId} {boot : WorkerBootId} {epoch : CoordinatorEpoch}
          (current : state.Current publisher boot epoch) :
          (state.step runtime (.start thread mutation)).Current publisher boot epoch :=
        ⟨current.1, by rw [engine]; exact current.2⟩
      refine ⟨sound, follows, by rw [engine]; exact guarded.consistent, ?_, ?_, ?_⟩
      · intro incarnation fenced
        rw [engine]
        exact guarded.buried incarnation fenced
      · intro port record ownership found owned
        rw [engine] at found
        exact current (guarded.owners port record ownership found owned)
      · intro other flight flying commits
        obtain ⟨kept, _⟩ | ⟨_, _, rfl, _⟩ | ⟨_, _, _, moved, _⟩ := System.step_flights flying
        · obtain caller | overtaken := guarded.callers other flight kept commits
          · exact .inl (current caller)
          · exact .inr (guarded.overtaken_step detects.room unloaded overtaken (fun _ => id) rfl)
        · cases commits
        · cases moved
  | advance thread answers =>
      refine ⟨sound, follows, guarded.consistent_advance, guarded.buried_advance,
        guarded.owners_advance detects, fun _ _ => guarded.callers_advance detects.room⟩
  | operate operation =>
      by_cases pipeline : ∃ mutation answers, operation = .mutate mutation answers
      -- Mutations run as flights; as one operation they leave the system alone.
      · obtain ⟨mutation, answers, rfl⟩ := pipeline
        exact guarded
      · have outside (mutation : Mutation) (answers : MutationAnswers) :
            operation ≠ .mutate mutation answers :=
          fun same => pipeline ⟨mutation, answers, same⟩
        have engine : (state.step runtime (.operate operation)).engine =
          state.engine.perform runtime operation := System.step_operate outside
        refine ⟨sound, follows, ?_, ?_, guarded.owners_operate outside unloaded engine, ?_⟩
        · rw [engine]
          exact guarded.consistent.perform operation
        · intro incarnation fenced
          rw [engine]
          exact guarded.buried_operate detects unloaded outside fenced
        · intro thread flight flying
          obtain ⟨kept, _⟩ | ⟨_, started, _⟩ | ⟨_, _, _, moved, _⟩ := System.step_flights flying
          · exact guarded.callers_operate detects unloaded engine kept
          · cases started
          · cases moved

end Steps

end FencedSystem

namespace FencedSystem

def detects (threads : List Nat) (state : FencedSystem) (action : Action) : Bool :=
  (state.engine.records.toList.all fun entry => !entry.2.generations.ownership.exhaustible) &&
    match action with
    | .start _ _ => true
    | .advance thread _ =>
        match state.system.flights thread with
        | some (.conclude (.transferOwnership request) _ _ _) =>
            decide (request.delegates = true →
              (request.delegatePublisher, request.delegateBoot) ∉ state.fenced)
        | _ => true
    | .operate operation =>
        (match operation with
          | .registerPublisher publisher boot _ => decide ((publisher, boot) ∉ state.fenced)
          | _ => true) &&
        threads.all fun thread => (state.system.flights thread).all fun flight =>
          !flight.mayCommit ||
          !operation.endsIncarnation state.engine flight.mutation.authority.publisher
            flight.mutation.authority.boot ||
          flight.snapshot?.any fun snapshot =>
            (state.engine.records[flight.mutation.port]?).any fun record =>
              (record.ownership.any fun ownership =>
                operation.endsIncarnation state.engine ownership.publisher ownership.boot) ||
              decide (snapshot.generations.ownership < record.generations.ownership)

theorem Detects.of_detects {threads : List Nat} {state : FencedSystem} {action : Action}
    (idle : ∀ thread, thread ∉ threads → state.system.flights thread = none)
    (checked : state.detects threads action = true) : state.Detects action := by
  obtain ⟨room, checked⟩ := Bool.and_eq_true_iff.mp checked
  refine ⟨?_, ?_, ?_, ?_⟩
  · intro port record found
    have advances := List.all_eq_true.mp room (port, record) (OrderedMap.mem_toList.mpr found)
    simpa using advances
  · intro publisher boot epoch same _
    subst same
    exact of_decide_eq_true (Bool.and_eq_true_iff.mp checked).1
  · intro thread answers request snapshot applied proposal evidence settled record same flying _ _
      delegates
    subst same
    simp only [flying] at checked
    exact of_decide_eq_true checked delegates
  · intro operation thread flight same flying commits ends
    subst same
    have used : thread ∈ threads := by
      by_contra unused
      rw [idle thread unused] at flying
      cases flying
    have detected := List.all_eq_true.mp (Bool.and_eq_true_iff.mp checked).2 thread used
    simp only [flying, Option.all_some, commits, ends, Bool.not_true, Bool.false_or,
      Option.any_eq_true, Bool.or_eq_true, decide_eq_true_eq] at detected
    obtain ⟨snapshot, carried, record, found, detected⟩ := detected
    exact ⟨snapshot, record, carried, found, detected⟩

/-- A run whose actions move the given threads meets the conditions when the check passes. -/
theorem Detects.along {runtime : Runtime} (threads : List Nat) {state : FencedSystem}
    {actions : List Action} (idle : ∀ thread, thread ∉ threads → state.system.flights thread = none)
    (moved : ∀ action ∈ actions, ∀ thread, action.thread? = some thread → thread ∈ threads)
    (checked : Runs.Along (step runtime) (fun state action => state.detects threads action = true)
      state actions) : Runs.Along (step runtime) Detects state actions := by
  induction actions generalizing state with
  | nil => trivial
  | cons action rest ih =>
      refine ⟨.of_detects idle checked.1, ih ?_ ?_ checked.2⟩
      · intro thread unused
        have untouched : action.thread? ≠ some thread :=
          fun same => unused (moved action List.mem_cons_self thread same)
        exact (System.step_flights_of_ne untouched).trans (idle thread unused)
      · exact fun other later => moved other (List.mem_cons_of_mem _ later)

end FencedSystem

/--
Along any interleaving whose steps meet the conditions, no commit of a fenced
incarnation or of an earlier epoch is stored, and neither owns a port.
-/
theorem fences_hold_along {runtime : Runtime} {system : System} {actions : List Action}
    (idle : ∀ thread, system.flights thread = none)
    (consistent : system.engine.PublishersConsistent)
    (granted : ∀ (port : PortId) (record : PortRecord) (ownership : PortOwnership),
      system.engine.records[port]? = some record → record.ownership = some ownership →
      ownership.epoch = system.engine.epoch)
    (unloaded : ∀ action ∈ actions, action.isLoad = false)
    (detects : Runs.Along (FencedSystem.step runtime) FencedSystem.Detects { system } actions) :
    Runs.Along (FencedSystem.step runtime) FencedSystem.CommitsCurrent { system } actions ∧
      Runs.Throughout (FencedSystem.step runtime) FencedSystem.OwnersCurrent { system }
        actions := by
  have guarded : FencedSystem.Guarded runtime { system } := by
    have grounded (thread : Nat) (flight : Flight) : system.flights thread ≠ some flight := by
      rw [idle]
      exact Option.some_ne_none flight |>.symm
    refine ⟨fun thread flight flying => absurd flying (grounded thread flight),
      fun thread flight _ flying => absurd flying (grounded thread flight), consistent,
      fun _ fenced => (by cases fenced), ?_,
      fun thread flight flying => absurd flying (grounded thread flight)⟩
    intro port record ownership found owned
    exact ⟨by simp, granted port record ownership found owned⟩
  clear idle consistent granted
  generalize ({ system } : FencedSystem) = state at detects guarded ⊢
  induction actions generalizing state with
  | nil => exact ⟨trivial, guarded.owners⟩
  | cons action rest ih =>
      have first := unloaded action List.mem_cons_self
      obtain ⟨commits, owners⟩ :=
        ih (fun other later => unloaded other (List.mem_cons_of_mem _ later)) _ detects.2
          (guarded.step detects.1 first)
      exact ⟨⟨guarded.commitsCurrent, commits⟩, guarded.owners, owners⟩

namespace FencedClaim

def port : PortId := "syn-sw1-p01"

def envelope (attempt : MutationAttemptId) : MutationEnvelope :=
  Fixture.envelope port "agent-a" "boot-a" attempt .first

def fence : Action := .operate (.fencePublisher "agent-a" "boot-a")

/-- The incarnation that claims an unowned port is fenced before the claim concludes. -/
def actions : List Action :=
  .operate (Fixture.bind port "bind-1") ::
    Fixture.prepare 0 (Fixture.claim (envelope "claim-1") "owner-a") {} ++
    [fence, .advance 0 {}]

def start : FencedSystem where
  system := { engine := .initial Fixture.runtime.config }

def after (actions : List Action) : FencedSystem :=
  Runs.run (FencedSystem.step Fixture.runtime) start actions

set_option maxRecDepth 100000 in
/-- The claim is stored, and the port is owned by the fenced incarnation. -/
theorem fenced_incarnation_owns :
    ¬(Runs.Along (FencedSystem.step Fixture.runtime) FencedSystem.CommitsCurrent start actions ∧
      Runs.Throughout (FencedSystem.step Fixture.runtime) FencedSystem.OwnersCurrent start
        actions) := by
  intro given
  rcases given with ⟨_, owners⟩
  have owned : ((after actions).engine.records[port]?).any (fun record =>
      record.ownership.any fun ownership =>
        decide ((ownership.publisher, ownership.boot) ∈ (after actions).fenced)) = true := by
    decide +kernel
  simp only [Option.any_eq_true, decide_eq_true_eq] at owned
  obtain ⟨record, found, ownership, held, fenced⟩ := owned
  exact (owners.last port record ownership found held).1 fenced

/-- The incarnation is fenced while it configures a port it owns. -/
def overtaken : List Action :=
  .operate (Fixture.bind port "bind-1") ::
    Fixture.complete 0 (Fixture.claim (envelope "claim-1") "owner-a") {} ++
    Fixture.prepare 0 (Fixture.configuration (envelope "configure-1")) Fixture.verified ++
    [fence, .advance 0 Fixture.verified]

set_option maxRecDepth 100000 in
theorem fence_holds :
    Runs.Along (FencedSystem.step Fixture.runtime) FencedSystem.CommitsCurrent start overtaken ∧
      Runs.Throughout (FencedSystem.step Fixture.runtime) FencedSystem.OwnersCurrent start
        overtaken := by
  have unowned (port : PortId) (record : PortRecord) :
      start.engine.records[port]? ≠ some record := by
    simp [start, EngineImpl.initial]
  refine fences_hold_along (fun _ => rfl) OrderedMap.Every.empty ?_ (by decide +kernel)
    (FencedSystem.Detects.along [0] (fun _ _ => rfl) (by decide +kernel)
      (by decide +kernel))
  intro port record ownership found
  exact absurd found (unowned port record)

end FencedClaim

end PortFabric
