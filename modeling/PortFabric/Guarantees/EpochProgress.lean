import PortFabric.Engine.Lifetime
import PortFabric.Engine.RecoveryProperties
import PortFabric.Engine.Fixture

/-!
# Epoch progress

A restart begins the epoch after the one it recovers. The epochs of the process
lifetimes increase as long as every start finds, in a container that was written
at most one epoch ago or in its configuration, how far the epochs went.
-/

set_option autoImplicit false

namespace PortFabric

open PortFabricEngine

/-- The epoch a start recovers, before it begins its own. -/
def Coordinator.recoveredEpoch (coordinator : Coordinator) (fault : Option ReadFault)
    (disk : Option PersistedState) : CoordinatorEpoch :=
  match readContainer fault disk with
  | .error _ => coordinator.runtime.config.epoch
  | .ok state => (EngineImpl.initial coordinator.runtime.config).recoveredEpoch state

namespace Deployment

/--
Every epoch of a lifetime is later than those of the lifetimes before it, and
the process that runs refuses the contexts of those.
-/
structure EpochsSeparated (deployment : Deployment) : Prop where
  increase : deployment.lifetimes.Pairwise fun later earlier =>
    ∀ epoch ∈ later, ∀ former ∈ earlier, former < epoch
  expire : ∀ coordinator impl, deployment.process = some (coordinator, impl) →
    ∀ earlier ∈ deployment.lifetimes.tail, ∀ authority : AuthorityContext,
      authority.epoch ∈ earlier → Rejects coordinator.runtime impl authority

/--
A start that succeeds reads a container since whose write the epoch has moved on
once at most, or is configured with an epoch no earlier than the latest one.
-/
def RestartsLater (deployment : Deployment) : ProcessEvent → Prop
  | .start coordinator fault =>
      (coordinator.start fault deployment.disk).isSome = true →
        (deployment.reads fault = true ∧ deployment.advances ≤ 1) ∨
          ∀ latest ∈ deployment.latest, latest ≤ coordinator.runtime.config.epoch
  | .operate _ | .reload _ => True

/-- How far the latest epoch is ahead of the container. -/
def Ahead (advances : Nat) (stored latest : CoordinatorEpoch) : Prop :=
  (advances ≤ 1 → latest.value = stored.value + advances) ∧
    (2 ≤ advances → stored.value + 2 ≤ latest.value)

/--
The running process operates under the latest epoch, no lifetime went further,
and the moves of the epoch since the last write tell how old the container is.
-/
structure Tracked (deployment : Deployment) : Prop where
  current : ∀ coordinator impl, deployment.process = some (coordinator, impl) →
    deployment.latest = some impl.epoch
  used : ∀ lifetime ∈ deployment.lifetimes, ∀ former ∈ lifetime,
    ∃ latest, deployment.latest = some latest ∧ former ≤ latest
  written : ∀ state, deployment.disk = some state →
    ∃ latest, deployment.latest = some latest ∧ Ahead deployment.advances state.epoch latest

end Deployment

section Start

variable {coordinator : Coordinator} {fault : Option ReadFault} {disk : Option PersistedState}
  {impl : EngineImpl}

theorem Coordinator.loaded_epoch
    (goesOn : ¬((load coordinator.runtime (.initial coordinator.runtime.config)
        (readContainer fault disk)).2.isOk = false ∧
      (load coordinator.runtime (.initial coordinator.runtime.config)
        (readContainer fault disk)).2.code ≠ .persistenceIoFailure)) :
    (load coordinator.runtime (.initial coordinator.runtime.config)
        (readContainer fault disk)).1.epoch = coordinator.recoveredEpoch fault disk ∧
      ∀ state, readContainer fault disk = .ok state →
        state.epoch < coordinator.recoveredEpoch fault disk := by
  unfold recoveredEpoch
  cases read : readContainer fault disk with
  | error outcome =>
      refine ⟨?_, fun state answered => by cases answered⟩
      simp [load, coordinator.located, EngineImpl.initial]
  | ok state =>
      rw [read] at goesOn
      have ok : (load coordinator.runtime (.initial coordinator.runtime.config)
          (.ok state)).2.isOk = true := by
        by_contra refused
        exact goesOn ⟨eq_false_of_ne_true refused, load_code coordinator.located⟩
      have accepted : (load coordinator.runtime (.initial coordinator.runtime.config)
          (.ok state)).2.accepted = true := by
        rw [Outcome.accepted, Outcome.isOk_iff.mp ok]
        rfl
      obtain ⟨recovers, _, epoch⟩ := load_accepted accepted
      refine ⟨epoch, fun other answered => ?_⟩
      cases answered
      exact recovers.epoch_beyond

theorem Coordinator.start_epoch (started : coordinator.start fault disk = some impl) :
    coordinator.recoveredEpoch fault disk < impl.epoch ∧
      impl.epoch = (coordinator.recoveredEpoch fault disk).next ∧
      ∀ state, readContainer fault disk = .ok state →
        state.epoch < coordinator.recoveredEpoch fault disk := by
  unfold Coordinator.start at started
  dsimp only at started
  split at started
  · cases started
  · next goesOn =>
      obtain ⟨loaded, beyond⟩ := Coordinator.loaded_epoch (by simpa using goesOn)
      rw [← loaded] at beyond ⊢
      split at started
      · next begun =>
          cases started
          obtain ⟨_, refused⟩ | ⟨_, later, _, after⟩ := EngineImpl.beginEpoch_effect_cases
            (load coordinator.runtime (.initial coordinator.runtime.config)
              (readContainer fault disk)).1
          · rw [refused] at begun
            cases begun
          · rw [after]
            exact ⟨later, rfl, beyond⟩
      · cases started

theorem readContainer_stored {state : PersistedState}
    (read : readContainer fault disk = .ok state) : disk = some state := by
  cases fault with
  | some failure => cases read
  | none =>
      cases disk with
      | none => cases read
      | some stored =>
          cases read
          rfl

theorem Coordinator.recoveredEpoch_unread {deployment : Deployment}
    (unread : deployment.reads fault = false) :
    coordinator.recoveredEpoch fault deployment.disk = coordinator.runtime.config.epoch := by
  unfold Coordinator.recoveredEpoch
  cases fault with
  | some failure => rfl
  | none =>
      cases stored : deployment.disk with
      | none => rfl
      | some state => simp [Deployment.reads, stored] at unread

end Start

namespace Deployment

variable {deployment : Deployment}

theorem reads_eq_true_iff {fault : Option ReadFault} :
    deployment.reads fault = true ↔
      ∃ state, deployment.disk = some state ∧ readContainer fault deployment.disk = .ok state := by
  unfold reads
  cases fault with
  | some failure => simp [readContainer]
  | none =>
      cases deployment.disk with
      | none => simp
      | some state => simp [readContainer]

theorem latest_eq_some_iff {epoch : CoordinatorEpoch} :
    deployment.latest = some epoch ↔
      ∃ lifetime earlier, deployment.lifetimes = (epoch :: lifetime) :: earlier := by
  unfold latest
  match deployment.lifetimes with
  | [] => simp
  | [] :: earlier => simp
  | (first :: lifetime) :: earlier => simp [eq_comm]

/-- No epoch went past a bound exactly when the latest one did not. -/
theorem Tracked.bounded_iff (tracked : deployment.Tracked) {bound : CoordinatorEpoch} :
    (∀ lifetime ∈ deployment.lifetimes, ∀ former ∈ lifetime, former ≤ bound) ↔
      ∀ latest ∈ deployment.latest, latest ≤ bound := by
  constructor
  · intro below latest here
    obtain ⟨lifetime, earlier, lifetimes⟩ := latest_eq_some_iff.mp here
    rw [lifetimes] at below
    exact below (latest :: lifetime) List.mem_cons_self latest List.mem_cons_self
  · intro below lifetime member former held
    obtain ⟨latest, here, atMost⟩ := tracked.used lifetime member former held
    exact Generation.le_trans atMost (below latest here)

/-- The configured epoch is recovered, or the one after that of the container. -/
theorem Coordinator.recoveredEpoch_read {coordinator : Coordinator} {fault : Option ReadFault}
    {state : PersistedState} (read : readContainer fault deployment.disk = .ok state)
    (beyond : state.epoch < coordinator.recoveredEpoch fault deployment.disk) :
    coordinator.runtime.config.epoch ≤ coordinator.recoveredEpoch fault deployment.disk ∧
      (coordinator.recoveredEpoch fault deployment.disk = coordinator.runtime.config.epoch ∨
        (coordinator.recoveredEpoch fault deployment.disk).value = state.epoch.value + 1) := by
  unfold Coordinator.recoveredEpoch at beyond ⊢
  rw [read] at beyond ⊢
  refine ⟨EngineImpl.le_recoveredEpoch (.initial coordinator.runtime.config) state, ?_⟩
  dsimp only at beyond ⊢
  unfold EngineImpl.recoveredEpoch at beyond ⊢
  split
  · next covered =>
      rw [if_pos covered] at beyond
      exact .inr (Generation.next_value beyond)
  · exact .inl rfl

/-- What a start recovers covers the latest epoch in exactly these two ways. -/
theorem Tracked.covers_iff (tracked : deployment.Tracked) {coordinator : Coordinator}
    {fault : Option ReadFault} {impl : EngineImpl}
    (started : coordinator.start fault deployment.disk = some impl) :
    (∀ latest ∈ deployment.latest, latest ≤ coordinator.recoveredEpoch fault deployment.disk) ↔
      (deployment.reads fault = true ∧ deployment.advances ≤ 1) ∨
        ∀ latest ∈ deployment.latest, latest ≤ coordinator.runtime.config.epoch := by
  cases reads : deployment.reads fault with
  | false => simp [Coordinator.recoveredEpoch_unread reads]
  | true =>
      obtain ⟨state, stored, read⟩ := reads_eq_true_iff.mp reads
      have beyond := (coordinator.start_epoch started).2.2 state read
      obtain ⟨configured, recovered⟩ := Coordinator.recoveredEpoch_read read beyond
      obtain ⟨latest, here, fresh, old⟩ := tracked.written state stored
      simp only [here, Option.mem_def, Option.some.injEq, forall_eq', true_and]
      simp only [Generation.lt_iff, Generation.le_iff] at beyond configured ⊢
      by_cases once : deployment.advances ≤ 1
      · have latest := fresh once
        refine iff_of_true ?_ (.inl once)
        omega
      · have latest := old (by omega)
        simp only [once, false_or]
        rcases recovered with same | next
        · rw [same]
        · omega

theorem rejects_earlier {runtime : Runtime} {impl : EngineImpl} {earlier : List CoordinatorEpoch}
    (past : ∀ former ∈ earlier, former < impl.epoch) (authority : AuthorityContext)
    (issued : authority.epoch ∈ earlier) : Rejects runtime impl authority :=
  rejects_stale (past _ issued)

/-- A start keeps the lifetimes apart exactly when it knows how far their epochs went. -/
theorem start_separated_iff (separated : deployment.EpochsSeparated)
    (tracked : deployment.Tracked) (coordinator : Coordinator) (fault : Option ReadFault) :
    (deployment.step (.start coordinator fault)).EpochsSeparated ↔
      deployment.RestartsLater (.start coordinator fault) := by
  unfold RestartsLater
  cases started : coordinator.start fault deployment.disk with
  | none =>
      simp only [step, started]
      refine iff_of_true ⟨separated.increase, ?_⟩ (by simp)
      intro _ _ process
      cases process
  | some impl =>
      obtain ⟨beyond, begun, _⟩ := coordinator.start_epoch started
      have later (former : CoordinatorEpoch) :
          former < impl.epoch ↔ former ≤ coordinator.recoveredEpoch fault deployment.disk := by
        rw [begun] at beyond ⊢
        exact Generation.lt_next_iff beyond
      simp only [step, started, Option.isSome_some, true_implies]
      rw [← tracked.covers_iff started, ← tracked.bounded_iff]
      constructor
      · intro after lifetime member former held
        exact (later former).mp (List.rel_of_pairwise_cons after.increase member impl.epoch
          List.mem_cons_self former held)
      · intro recovered
        constructor
        · refine List.pairwise_cons.mpr ⟨?_, separated.increase⟩
          intro earlier member epoch here former held
          obtain rfl := List.mem_singleton.mp here
          exact (later former).mpr (recovered earlier member former held)
        · intro running current process earlier member authority issued
          cases process
          exact rejects_earlier
            (fun former held => (later former).mpr (recovered earlier member former held))
            authority issued

/-- No operation of the running process brings its epochs closer to the earlier ones. -/
theorem operated_separated (separated : deployment.EpochsSeparated)
    {coordinator : Coordinator} {impl : EngineImpl}
    (current : deployment.latest = some impl.epoch) (operation : Operation) :
    (deployment.operated coordinator impl operation).EpochsSeparated := by
  obtain ⟨lifetime, earlier, lifetimes⟩ := latest_eq_some_iff.mp current
  obtain ⟨past, apart⟩ := List.pairwise_cons.mp (lifetimes ▸ separated.increase)
  have advanced (former : CoordinatorEpoch) (before : former < impl.epoch) :
      former < (impl.perform coordinator.runtime operation).epoch :=
    Generation.lt_of_lt_of_le before (impl.epoch_le_perform operation)
  unfold operated
  rw [lifetimes]
  constructor
  · refine List.pairwise_cons.mpr ⟨?_, apart⟩
    intro older member epoch here former held
    rcases List.mem_cons.mp here with rfl | here
    · exact advanced former (past older member impl.epoch List.mem_cons_self former held)
    · exact past older member epoch here former held
  · intro again performed process older member authority issued
    cases process
    exact rejects_earlier
      (fun former held =>
        advanced former (past older member impl.epoch List.mem_cons_self former held))
      authority issued

theorem step_separated_iff (separated : deployment.EpochsSeparated)
    (tracked : deployment.Tracked) (event : ProcessEvent) :
    (deployment.step event).EpochsSeparated ↔ deployment.RestartsLater event := by
  cases event with
  | start coordinator fault => exact start_separated_iff separated tracked coordinator fault
  | operate operation =>
      refine iff_of_true ?_ trivial
      simp only [step]
      split
      · exact separated
      · next coordinator impl running =>
          split
          · exact separated
          · exact operated_separated separated (tracked.current _ _ running) operation
  | reload fault =>
      refine iff_of_true ?_ trivial
      simp only [step]
      split
      · exact separated
      · next coordinator impl running =>
          exact operated_separated separated (tracked.current _ _ running) _

/-- An epoch that moves on by one step is one step further ahead of the container. -/
theorem Ahead.next {advances : Nat} {stored latest moved : CoordinatorEpoch}
    (ahead : Ahead advances stored latest) (next : moved.value = latest.value + 1) :
    Ahead (advances + 1) stored moved := by
  obtain ⟨fresh, old⟩ := ahead
  constructor
  · intro once
    have latest := fresh (by omega)
    omega
  · intro twice
    by_cases once : advances ≤ 1
    · have latest := fresh once
      omega
    · have latest := old (by omega)
      omega

/-- The epoch of a load is the one after that of the container, when it moves at all. -/
theorem Tracked.performed_epoch (tracked : deployment.Tracked) {coordinator : Coordinator}
    {impl : EngineImpl} (running : deployment.process = some (coordinator, impl))
    {operation : Operation}
    (reads : ∀ container state, operation = .load container → container = .ok state →
      deployment.disk = some state) :
    (impl.perform coordinator.runtime operation).epoch = impl.epoch ∨
      (impl.perform coordinator.runtime operation).epoch.value = impl.epoch.value + 1 := by
  rcases impl.perform_epoch coordinator.runtime operation with same | ⟨later, moved⟩ |
    ⟨container, state, loads, recovers, recovered⟩
  · exact .inl same
  · rw [moved]
    exact .inr (Generation.next_value later)
  · obtain ⟨latest, here, fresh, old⟩ := tracked.written state (reads _ _ loads recovers.read)
    obtain rfl : latest = impl.epoch :=
      Option.some.inj (here.symm.trans (tracked.current _ _ running))
    have beyond := recovers.epoch_beyond
    rw [recovered]
    unfold EngineImpl.recoveredEpoch at beyond ⊢
    split
    · next covered =>
        rw [if_pos covered] at beyond
        rw [Generation.next_value beyond]
        simp only [Generation.le_iff] at covered
        right
        by_cases once : deployment.advances ≤ 1
        · have latest := fresh once
          omega
        · have latest := old (by omega)
          omega
    · exact .inl rfl

theorem Tracked.operated (tracked : deployment.Tracked) {coordinator : Coordinator}
    {impl : EngineImpl} (running : deployment.process = some (coordinator, impl))
    {operation : Operation}
    (reads : ∀ container state, operation = .load container → container = .ok state →
      deployment.disk = some state) :
    (deployment.operated coordinator impl operation).Tracked := by
  have current := tracked.current _ _ running
  obtain ⟨lifetime, earlier, lifetimes⟩ := latest_eq_some_iff.mp current
  have atMost : impl.epoch ≤ (impl.perform coordinator.runtime operation).epoch :=
    impl.epoch_le_perform operation
  have moves := tracked.performed_epoch running reads
  have latest : (deployment.operated coordinator impl operation).latest =
      some (impl.perform coordinator.runtime operation).epoch := by
    unfold Deployment.operated Deployment.latest
    rw [lifetimes]
    rfl
  have earlierUsed (former : CoordinatorEpoch)
      (used : ∃ older ∈ deployment.lifetimes, former ∈ older) :
      former ≤ (impl.perform coordinator.runtime operation).epoch := by
    obtain ⟨older, member, held⟩ := used
    obtain ⟨last, here, below⟩ := tracked.used older member former held
    rw [current] at here
    cases here
    exact Generation.le_trans below atMost
  refine ⟨fun _ _ process => ?_, fun older member former held => ⟨_, latest, ?_⟩,
    fun state stored => ⟨_, latest, ?_⟩⟩
  · cases process
    exact latest
  · simp only [Deployment.operated, lifetimes, operatingUnder] at member
    rcases List.mem_cons.mp member with rfl | member
    · rcases List.mem_cons.mp held with rfl | held
      · exact Generation.le_refl _
      · exact earlierUsed former ⟨_, lifetimes ▸ List.mem_cons_self, held⟩
    · exact earlierUsed former ⟨older, lifetimes ▸ List.mem_cons_of_mem _ member, held⟩
  · simp only [Deployment.operated] at stored ⊢
    split at stored
    · next written =>
        cases stored
        rw [if_pos written]
        exact ⟨fun _ => rfl, fun twice => absurd twice (by decide)⟩
    · next unwritten =>
        obtain ⟨last, here, ahead⟩ := tracked.written state stored
        obtain rfl : impl.epoch = last := Option.some.inj (current.symm.trans here)
        rw [if_neg unwritten]
        split
        · next same => rwa [same]
        · next moved => exact ahead.next (moves.resolve_left moved)

theorem Tracked.started (tracked : deployment.Tracked) {coordinator : Coordinator}
    {fault : Option ReadFault} {impl : EngineImpl}
    (started : coordinator.start fault deployment.disk = some impl)
    (restarts : (deployment.reads fault = true ∧ deployment.advances ≤ 1) ∨
      ∀ latest ∈ deployment.latest, latest ≤ coordinator.runtime.config.epoch)
    {state : PersistedState} (stored : deployment.disk = some state) :
    Ahead (deployment.advances + deployment.startAdvances coordinator fault) state.epoch
      impl.epoch := by
  obtain ⟨beyond, begun, above⟩ := coordinator.start_epoch started
  have next : impl.epoch.value =
      (coordinator.recoveredEpoch fault deployment.disk).value + 1 := by
    rw [begun] at beyond ⊢
    exact Generation.next_value beyond
  obtain ⟨latest, here, ahead⟩ := tracked.written state stored
  unfold startAdvances
  cases reads : deployment.reads fault with
  | true =>
      obtain ⟨read, held, answered⟩ := reads_eq_true_iff.mp reads
      obtain rfl : state = read := Option.some.inj (stored.symm.trans held)
      have past := above state answered
      rw [Generation.lt_iff] at past
      simp only [Bool.not_true, Bool.false_eq_true, false_and, if_false]
      exact ⟨fun once => by omega, fun _ => by omega⟩
  | false =>
      rw [Coordinator.recoveredEpoch_unread reads] at next
      have covered := (restarts.resolve_left (by simp [reads])) latest here
      rw [Generation.le_iff] at covered
      simp only [Bool.not_false, true_and, here, Option.some.injEq]
      split
      · next same =>
          rw [← same] at next
          exact ahead.next next
      · next different =>
          have apart : latest.value ≠ coordinator.runtime.config.epoch.value :=
            fun same => different (Generation.ext same)
          obtain ⟨fresh, old⟩ := ahead
          refine ⟨fun once => by omega, fun _ => ?_⟩
          by_cases once : deployment.advances ≤ 1
          · have latest := fresh once
            omega
          · have latest := old (by omega)
            omega

theorem Tracked.step (tracked : deployment.Tracked) (separated : deployment.EpochsSeparated)
    {event : ProcessEvent} (restarts : deployment.RestartsLater event) :
    (deployment.step event).Tracked := by
  cases event with
  | start coordinator fault =>
      have apart := (start_separated_iff separated tracked coordinator fault).mpr restarts
      unfold RestartsLater at restarts
      cases started : coordinator.start fault deployment.disk with
      | none =>
          simp only [Deployment.step, started]
          refine ⟨fun _ _ process => ?_, tracked.used, tracked.written⟩
          cases process
      | some impl =>
          simp only [Deployment.step, started] at apart ⊢
          refine ⟨fun _ _ process => ?_, fun older member former held => ⟨_, rfl, ?_⟩,
            fun state stored => ⟨_, rfl, ?_⟩⟩
          · cases process
            rfl
          · rcases List.mem_cons.mp member with rfl | member
            · rw [List.mem_singleton.mp held]
              exact Generation.le_refl _
            · exact Generation.le_of_lt (List.rel_of_pairwise_cons apart.increase member impl.epoch
                List.mem_cons_self former held)
          · exact tracked.started started (restarts (by rw [started]; rfl)) stored
  | operate operation =>
      simp only [Deployment.step]
      split
      · exact tracked
      · next coordinator impl running =>
          split
          · exact tracked
          · next unloaded =>
              refine tracked.operated running fun container state loads _ => ?_
              subst loads
              exact absurd rfl unloaded
  | reload fault =>
      simp only [Deployment.step]
      split
      · exact tracked
      · next coordinator impl running =>
          refine tracked.operated running fun container state loads read => ?_
          cases loads
          exact readContainer_stored read

theorem initial_tracked (disk : Option PersistedState) : (initial disk).Tracked := by
  cases disk with
  | none =>
      refine ⟨fun _ _ process => ?_, fun _ member => ?_, fun _ stored => ?_⟩
      · cases process
      · cases member
      · cases stored
  | some state =>
      refine ⟨fun _ _ process => ?_, fun lifetime member former held => ?_,
        fun found stored => ?_⟩
      · cases process
      · obtain rfl := List.mem_singleton.mp member
        obtain rfl := List.mem_singleton.mp held
        exact ⟨_, rfl, Generation.le_refl _⟩
      · cases stored
        exact ⟨_, rfl, fun _ => rfl, fun twice => absurd twice (by decide : ¬2 ≤ 0)⟩

theorem initial_separated (disk : Option PersistedState) : (initial disk).EpochsSeparated := by
  refine ⟨?_, fun _ _ process => by cases process⟩
  cases disk with
  | none => exact List.Pairwise.nil
  | some state => exact List.pairwise_singleton ..

end Deployment

/--
Over one container, with whatever an earlier lifetime left in it, the epochs of
the process lifetimes stay apart exactly when every start that succeeds reads a
container since whose write the epoch has moved on once at most, or is
configured with an epoch no earlier than the latest one.
-/
theorem epochs_separated_iff (disk : Option PersistedState) (events : List ProcessEvent) :
    Runs.Throughout Deployment.step Deployment.EpochsSeparated (.initial disk) events ↔
      Runs.Along Deployment.step Deployment.RestartsLater (.initial disk) events := by
  have supported (deployment : Deployment) (event : ProcessEvent)
      (tracked : deployment.Tracked) (separated : deployment.EpochsSeparated)
      (restarts : deployment.RestartsLater event) : (deployment.step event).Tracked :=
    tracked.step separated restarts
  exact Runs.throughout_iff_along supported
    (fun deployment event tracked separated =>
      Deployment.step_separated_iff separated tracked event)
    (Deployment.initial_tracked disk) (Deployment.initial_separated disk)

namespace UnsavedLifetimes

def coordinator : Coordinator where
  runtime :=
    { Fixture.runtime with config := Fixture.engineConfig "coordinator" "ports.pf" .first }
  automatic := rfl
  located := rfl

/-- A process that stops before it mutates anything, and its successor. -/
def events : List ProcessEvent := [.start coordinator none, .start coordinator none]

/-- Both lifetimes operate under the second epoch. -/
theorem epochs_repeated :
    ¬Runs.Throughout Deployment.step Deployment.EpochsSeparated (.initial none) events := by
  intro separated
  have repeated : (Runs.run Deployment.step (.initial none) events).lifetimes =
      [[.ofNat 2], [.ofNat 2]] := by
    decide +kernel
  have increase := separated.last.increase
  rw [repeated] at increase
  exact Generation.ne_of_lt (List.rel_of_pairwise_cons increase List.mem_cons_self _
    List.mem_cons_self _ List.mem_cons_self) rfl

end UnsavedLifetimes

end PortFabric
