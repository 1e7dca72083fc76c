import PortFabric.Engine.DurabilityProperties
import PortFabric.Engine.Fixture
import PortFabric.Library.Runs

/-!
# Durable order

A thread gathers the state in one critical section and writes it in another.
The container keeps every acknowledged mutation, and its generation does not
fall, as long as no thread replaces it with an image of an earlier engine.
-/

set_option autoImplicit false

namespace PortFabric

/-- The container holds the stamped version of the port, or one committed later. -/
def CommitStamp.IncludedIn (stamp : CommitStamp) (versions : PortId → List PortRecord)
    (container : PersistedState) : Prop :=
  ∃ record older, record ∈ container.records ∧
    stamp.versions <:+ record :: older ∧ record :: older <:+ versions stamp.port

namespace DurableSystem

/-- Every acknowledged mutation is in the container, whose generation has never fallen. -/
structure Lasting (durable : DurableSystem) : Prop where
  included : ∀ stamp ∈ durable.acknowledged, ∃ container,
    durable.disk = some container ∧ stamp.IncludedIn durable.versions container
  ordered : durable.written.Pairwise fun later earlier =>
    earlier.engineGeneration ≤ later.engineGeneration

/-- A write that succeeds does not replace the container with an image of an earlier engine. -/
def WritesForward (durable : DurableSystem) : DurableAction → Prop
  | .write thread store => ∀ image container,
      durable.images thread = some image → durable.holder = some thread →
      (savePersistedState image store).isOk = true → durable.disk = some container →
      container.engineGeneration ≤ image.engineGeneration
  | _ => True

/-- The thread's commit, or one whose call has returned. -/
def Stamped (durable : DurableSystem) (stamp : CommitStamp) : Prop :=
  (∃ thread, durable.stamps thread = some stamp) ∨ stamp ∈ durable.acknowledged

/-- What holds of the commits, the images and the container in every state of a run. -/
structure Sound (durable : DurableSystem) : Prop where
  latest : ∀ port, (durable.versions port).head? = durable.system.engine.records[port]?
  issued : ∀ stamp, durable.Stamped stamp → stamp.versions ≠ [] ∧
    stamp.versions <:+ durable.versions stamp.port ∧
    stamp.generation ≤ durable.system.engine.generation
  gathered : ∀ thread image, durable.images thread = some image →
    image.engineGeneration ≤ durable.system.engine.generation
  /-- An image holds every commit that is no later than the image. -/
  covers : ∀ thread image stamp, durable.images thread = some image → durable.Stamped stamp →
    stamp.generation ≤ image.engineGeneration → stamp.IncludedIn durable.versions image
  /-- A call gathers after it has committed. -/
  own : ∀ thread image stamp, durable.images thread = some image →
    durable.stamps thread = some stamp → stamp.generation ≤ image.engineGeneration
  engaged : ∀ thread flight, (durable.images thread).isSome = true →
    durable.system.flights thread = some flight → flight.persists = true
  covered : ∀ stamp ∈ durable.acknowledged, ∃ container, durable.disk = some container ∧
    stamp.generation ≤ container.engineGeneration ∧
    stamp.IncludedIn durable.versions container

end DurableSystem

theorem CommitStamp.IncludedIn.later {stamp : CommitStamp} {container : PersistedState}
    {before after : PortId → List PortRecord} (included : stamp.IncludedIn before container)
    (longer : before stamp.port <:+ after stamp.port) : stamp.IncludedIn after container := by
  obtain ⟨record, older, member, since, recorded⟩ := included
  exact ⟨record, older, member, since, recorded.trans longer⟩

namespace DurableSystem

section Steps

variable {runtime : Runtime} {durable : DurableSystem}

theorem Sound.gatherState (sound : durable.Sound) (config : EngineConfig) {stamp : CommitStamp}
    (stamped : durable.Stamped stamp) :
    stamp.IncludedIn durable.versions (durable.system.engine.gatherState config) := by
  obtain ⟨nonempty, recorded, _⟩ := sound.issued stamp stamped
  cases history : durable.versions stamp.port with
  | nil =>
      rw [history] at recorded
      exact absurd (List.suffix_nil.mp recorded) nonempty
  | cons record older =>
      have current := sound.latest stamp.port
      rw [history, List.head?_cons] at current
      have member : record ∈ (durable.system.engine.gatherState config).records :=
        List.mem_map_of_mem (OrderedMap.mem_toList.mpr current.symm)
      exact ⟨record, older, member, history ▸ recorded, history ▸ List.suffix_refl _⟩

/-- A step that moves the engine onward keeps the commits, the images and the container. -/
theorem Sound.withSystem {after : System} (sound : durable.Sound)
    (onward : Onward durable.system.engine after.engine)
    (engaged : ∀ thread flight, (durable.images thread).isSome = true →
      after.flights thread = some flight → flight.persists = true) :
    (durable.withSystem after).Sound := by
  have longer (port : PortId) :
      durable.versions port <:+ (durable.withSystem after).versions port :=
    suffix_extend ..
  constructor
  · intro port
    exact head?_extend (sound.latest port) (onward.bound port)
  · intro stamp stamped
    obtain ⟨nonempty, recorded, reached⟩ := sound.issued stamp stamped
    exact ⟨nonempty, recorded.trans (longer _), Generation.le_trans reached onward.generation⟩
  · intro thread image pending
    exact Generation.le_trans (sound.gathered thread image pending) onward.generation
  · intro thread image stamp pending stamped before
    exact (sound.covers thread image stamp pending stamped before).later (longer _)
  · exact sound.own
  · exact engaged
  · intro stamp member
    obtain ⟨container, stored, reached, included⟩ := sound.covered stamp member
    exact ⟨container, stored, reached, included.later (longer _)⟩

/-- A commit is stamped after every image that is still to be written. -/
theorem Sound.stampCommit (sound : durable.Sound) {thread : Nat}
    (fresh : ∀ flight mutation, durable.system.flights thread = some flight →
      flight.committed? = some mutation →
      durable.system.engine.records[mutation.port]?.isSome = true ∧
        durable.images thread = none ∧
        ∀ other image, durable.images other = some image →
          image.engineGeneration < durable.system.engine.generation) :
    (durable.stampCommit thread).Sound := by
  unfold DurableSystem.stampCommit
  split
  · exact sound
  · next mutation committed =>
      obtain ⟨flight, flying, settled⟩ := Option.bind_eq_some_iff.mp committed
      obtain ⟨present, idle, earlier⟩ := fresh flight mutation flying settled
      let made : CommitStamp :=
        { port := mutation.port
          versions := durable.versions mutation.port
          generation := durable.system.engine.generation }
      let stamped : DurableSystem :=
        { durable with
          stamps := fun other => if other = thread then some made else durable.stamps other }
      have origin {stamp : CommitStamp} (held : stamped.Stamped stamp) :
          stamp = made ∨ durable.Stamped stamp := by
        obtain ⟨other, held⟩ | returned := held
        · simp only [stamped] at held
          split at held
          · exact .inl (Option.some.inj held).symm
          · exact .inr (.inl ⟨other, held⟩)
        · exact .inr (.inr returned)
      have nonempty : made.versions ≠ [] := by
        intro none
        have current := sound.latest mutation.port
        rw [← current, show durable.versions mutation.port = [] from none] at present
        cases present
      show stamped.Sound
      constructor
      · exact sound.latest
      · intro stamp held
        obtain rfl | held := origin held
        · exact ⟨nonempty, List.suffix_refl _, Generation.le_refl _⟩
        · exact sound.issued stamp held
      · exact sound.gathered
      · intro other image stamp pending held before
        obtain rfl | held := origin held
        -- Every image still pending was gathered before the commit.
        · have later := Generation.lt_of_le_of_lt before (earlier other image pending)
          exact absurd rfl (Generation.ne_of_lt later)
        · exact sound.covers other image stamp pending held before
      · intro other image stamp pending held
        simp only [stamped] at held
        split at held
        · next same =>
            rw [same] at pending
            rw [show stamped.images thread = none from idle] at pending
            cases pending
        · exact sound.own other image stamp pending held
      · exact sound.engaged
      · exact sound.covered

theorem Sound.act (sound : durable.Sound) (action : Action) :
    (durable.act runtime action).Sound := by
  cases action with
  | operate operation =>
      simp only [DurableSystem.act]
      split
      · exact sound
      · next outside =>
          have unloaded : operation.isLoad = false := by
            cases operation <;> simp_all [Operation.isLoad, Operation.reachesStore]
          refine sound.withSystem (System.step_onward runtime durable.system unloaded) ?_
          intro thread flight pending flying
          rw [System.step_flights_of_ne (by simp [Action.thread?])] at flying
          exact sound.engaged thread flight pending flying
  | start thread mutation =>
      simp only [DurableSystem.act]
      split
      · exact sound
      · next free =>
          refine sound.withSystem (System.step_onward runtime durable.system rfl) ?_
          intro other flight pending flying
          obtain ⟨kept, _⟩ | ⟨_, started, _⟩ | ⟨_, _, _, advanced, _⟩ :=
            System.step_flights flying
          · exact sound.engaged other flight pending kept
          · cases started
            exact absurd pending free
          · cases advanced
  | advance thread answers =>
      simp only [DurableSystem.act]
      split
      · exact sound
      · next running =>
          -- The thread does not persist next, so it has gathered nothing yet.
          have idle {before : Flight} (flying : durable.system.flights thread = some before) :
              durable.images thread = none := by
            by_contra pending
            have persists := sound.engaged thread before
              (Option.isSome_iff_ne_none.mpr pending) flying
            simp [flying, persists] at running
          have onward : Onward durable.system.engine
              (durable.system.step runtime (.advance thread answers)).engine :=
            System.step_onward runtime durable.system rfl
          refine (sound.withSystem onward ?_).stampCommit ?_
          · intro other flight pending flying
            obtain ⟨kept, _⟩ | ⟨_, started, _⟩ | ⟨_, before, _, advanced, flew, _⟩ :=
              System.step_flights flying
            · exact sound.engaged other flight pending kept
            · cases started
            · cases advanced
              rw [idle flew] at pending
              cases pending
          · intro flight mutation flying settled
            obtain ⟨_, other⟩ | ⟨_, started, _⟩ | ⟨_, before, after, advanced, flew, went⟩ :=
              System.step_flights flying
            · exact absurd rfl (other answers)
            · cases started
            · cases advanced
              obtain ⟨final, rfl⟩ := Flight.committed?_eq settled
              obtain ⟨raised, bound⟩ := Flight.advance_committed went
              rw [← System.step_advance flew went] at raised bound
              refine ⟨bound, idle flew, fun other image pending => ?_⟩
              exact Generation.lt_of_le_of_lt (sound.gathered other image pending) raised

theorem Sound.gather (sound : durable.Sound) (thread : Nat) :
    (durable.gather runtime thread).Sound := by
  unfold DurableSystem.gather
  split
  · next free =>
      constructor
      · exact sound.latest
      · exact sound.issued
      · intro other image pending
        simp only at pending
        split at pending
        · cases pending
          exact Generation.le_refl _
        · exact sound.gathered other image pending
      · intro other image stamp pending stamped before
        simp only at pending
        split at pending
        · cases pending
          exact sound.gatherState runtime.config stamped
        · exact sound.covers other image stamp pending stamped before
      · intro other image stamp pending held
        simp only at pending
        split at pending
        · cases pending
          obtain ⟨_, _, reached⟩ := sound.issued stamp (.inl ⟨other, held⟩)
          exact reached
        · exact sound.own other image stamp pending held
      · intro other flight pending flying
        simp only at pending
        split at pending
        · next same =>
            have persists := free.2
            rw [← same, flying] at persists
            exact persists
        · exact sound.engaged other flight pending flying
      · exact sound.covered
  · exact sound

theorem Sound.lock (sound : durable.Sound) (thread : Nat) : (durable.lock thread).Sound := by
  unfold DurableSystem.lock
  split
  · obtain ⟨latest, issued, gathered, covers, own, engaged, covered⟩ := sound
    exact ⟨latest, issued, gathered, covers, own, engaged, covered⟩
  · exact sound

/-- An image that is no older than the container replaces it, or is not written. -/
theorem Sound.replace (sound : durable.Sound) {thread : Nat} {image : PersistedState}
    (gathered : durable.images thread = some image) (outcome : Outcome)
    (forward : outcome.isOk = true → ∀ container, durable.disk = some container →
      container.engineGeneration ≤ image.engineGeneration) :
    (durable.replace thread image outcome).Sound := by
  have remaining {other : Nat} {stored : PersistedState}
      (pending : (durable.replace thread image outcome).images other = some stored) :
      durable.images other = some stored := by
    simp only [DurableSystem.replace] at pending
    split at pending
    · cases pending
    · exact pending
  constructor
  · exact sound.latest
  · exact sound.issued
  · exact fun other stored pending => sound.gathered other stored (remaining pending)
  · exact fun other stored stamp pending => sound.covers other stored stamp (remaining pending)
  · exact fun other stored stamp pending => sound.own other stored stamp (remaining pending)
  · intro other flight pending flying
    obtain ⟨stored, found⟩ := Option.isSome_iff_exists.mp pending
    exact sound.engaged other flight (by rw [remaining found]; rfl) flying
  · intro stamp member
    obtain ⟨container, stored, reached, included⟩ := sound.covered stamp member
    cases ok : outcome.isOk with
    | false =>
        refine ⟨container, ?_, reached, included⟩
        simp only [disk, DurableSystem.replace, ok]
        exact stored
    | true =>
        have since := Generation.le_trans reached (forward ok container stored)
        refine ⟨image, ?_, since, sound.covers thread image stamp gathered (.inr member) since⟩
        simp [disk, DurableSystem.replace, ok]

theorem Sound.complete (sound : durable.Sound) {thread : Nat} {outcome : Outcome}
    (stored : outcome.isOk = true → ∀ stamp, durable.stamps thread = some stamp →
      ∃ container, durable.disk = some container ∧
        stamp.generation ≤ container.engineGeneration ∧
        stamp.IncludedIn durable.versions container) :
    (durable.complete thread outcome).Sound := by
  have outstanding {other : Nat} {stamp : CommitStamp}
      (pending : (durable.complete thread outcome).stamps other = some stamp) :
      durable.stamps other = some stamp := by
    simp only [DurableSystem.complete] at pending
    split at pending
    · cases pending
    · exact pending
  have acknowledged {stamp : CommitStamp}
      (member : stamp ∈ (durable.complete thread outcome).acknowledged) :
      outcome.isOk = true ∧ durable.stamps thread = some stamp ∨
        stamp ∈ durable.acknowledged := by
    simp only [DurableSystem.complete] at member
    split at member
    · next ok =>
        rcases List.mem_append.mp member with own | earlier
        · exact .inl ⟨ok, Option.mem_toList.mp own⟩
        · exact .inr earlier
    · exact .inr member
  have origin {stamp : CommitStamp} (stamped : (durable.complete thread outcome).Stamped stamp) :
      durable.Stamped stamp := by
    obtain ⟨other, held⟩ | returned := stamped
    · exact .inl ⟨other, outstanding held⟩
    · obtain ⟨_, own⟩ | earlier := acknowledged returned
      · exact .inl ⟨thread, own⟩
      · exact .inr earlier
  constructor
  · exact sound.latest
  · exact fun stamp stamped => sound.issued stamp (origin stamped)
  · exact sound.gathered
  · exact fun other image stamp pending stamped =>
      sound.covers other image stamp pending (origin stamped)
  · exact fun other image stamp pending held =>
      sound.own other image stamp pending (outstanding held)
  · intro other flight pending flying
    simp only [DurableSystem.complete, System.withFlight] at flying
    split at flying
    · cases flying
    · exact sound.engaged other flight pending flying
  · intro stamp member
    obtain ⟨ok, own⟩ | earlier := acknowledged member
    · exact stored ok stamp own
    · exact sound.covered stamp earlier

/-- A write that does not replace a later image keeps every acknowledged commit. -/
theorem Sound.write (sound : durable.Sound) {thread : Nat} {store : StoreAnswers}
    (forward : durable.WritesForward (.write thread store)) :
    (durable.write thread store).Sound := by
  unfold DurableSystem.write
  split
  · exact sound
  · next image gathered =>
      split
      · next held =>
          refine (sound.replace gathered _ fun ok container stored =>
            forward image container gathered held ok stored).complete ?_
          intro ok stamp own
          have since := sound.own thread image stamp gathered own
          refine ⟨image, ?_, since, sound.covers thread image stamp gathered (.inl ⟨thread, own⟩)
            since⟩
          simp [disk, DurableSystem.replace, ok]
      · exact sound

theorem Sound.step (sound : durable.Sound) {action : DurableAction}
    (forward : durable.WritesForward action) : (durable.step runtime action).Sound := by
  cases action with
  | act action => exact sound.act action
  | gather thread => exact sound.gather thread
  | lock thread => exact sound.lock thread
  | write thread store => exact sound.write forward

theorem pairwise_cons_iff {image : PersistedState}
    (ordered : durable.written.Pairwise fun later earlier =>
      earlier.engineGeneration ≤ later.engineGeneration) :
    ((image :: durable.written).Pairwise fun later earlier =>
        earlier.engineGeneration ≤ later.engineGeneration) ↔
      ∀ container, durable.disk = some container →
        container.engineGeneration ≤ image.engineGeneration := by
  rw [List.pairwise_cons, and_iff_left ordered, disk]
  cases history : durable.written with
  | nil => simp
  | cons current earlier =>
      rw [history] at ordered
      constructor
      · intro later container stored
        cases stored
        exact later current List.mem_cons_self
      · intro forward container member
        have atMost := forward current rfl
        rcases List.mem_cons.mp member with rfl | member
        · exact atMost
        · exact Generation.le_trans (List.rel_of_pairwise_cons ordered member) atMost

/-- The containers stay in order exactly when the write goes forward. -/
theorem write_ordered_iff (ordered : durable.written.Pairwise fun later earlier =>
    earlier.engineGeneration ≤ later.engineGeneration) (thread : Nat) (store : StoreAnswers) :
    ((durable.write thread store).written.Pairwise fun later earlier =>
        earlier.engineGeneration ≤ later.engineGeneration) ↔
      durable.WritesForward (.write thread store) := by
  unfold DurableSystem.write WritesForward
  split
  · next idle => simp [idle, ordered]
  · next image gathered =>
      split
      · next held =>
          have written : ((durable.replace thread image (savePersistedState image store)).complete
              thread (savePersistedState image store)).written =
                if (savePersistedState image store).isOk then image :: durable.written
                else durable.written := rfl
          rw [written]
          split
          · next ok =>
              rw [pairwise_cons_iff ordered]
              constructor
              · rintro forward _ container pending - - stored
                obtain rfl := Option.some.inj (gathered.symm.trans pending)
                exact forward container stored
              · intro forward container stored
                exact forward image container gathered held ok stored
          · next failed =>
              refine iff_of_true ordered ?_
              intro _ _ pending _ ok
              obtain rfl := Option.some.inj (gathered.symm.trans pending)
              exact absurd ok failed
      · next free => exact iff_of_true ordered fun _ _ _ held => absurd held free

theorem written_act (action : Action) :
    (durable.act runtime action).written = durable.written := by
  have stamped (after : DurableSystem) (thread : Nat) :
      (after.stampCommit thread).written = after.written := by
    unfold DurableSystem.stampCommit
    split <;> rfl
  cases action with
  | operate operation =>
      simp only [DurableSystem.act]
      split <;> rfl
  | start thread mutation =>
      simp only [DurableSystem.act]
      split <;> rfl
  | advance thread answers =>
      simp only [DurableSystem.act]
      split
      · rfl
      · exact stamped ..

/-- A step keeps the guarantee exactly when it writes forward. -/
theorem step_lasting_iff (sound : durable.Sound) (lasting : durable.Lasting)
    (action : DurableAction) :
    (durable.step runtime action).Lasting ↔ durable.WritesForward action := by
  have included {after : DurableSystem} (sound : after.Sound) :
      ∀ stamp ∈ after.acknowledged, ∃ container, after.disk = some container ∧
        stamp.IncludedIn after.versions container := by
    intro stamp member
    obtain ⟨container, stored, _, included⟩ := sound.covered stamp member
    exact ⟨container, stored, included⟩
  cases action with
  | act action =>
      refine iff_of_true ⟨included (sound.act action), ?_⟩ trivial
      rw [show (durable.step runtime (.act action)).written = durable.written from
        written_act action]
      exact lasting.ordered
  | gather thread =>
      have same : (durable.step runtime (.gather thread)).written = durable.written := by
        simp only [DurableSystem.step, DurableSystem.gather]
        split <;> rfl
      exact iff_of_true ⟨included (sound.gather thread), same ▸ lasting.ordered⟩ trivial
  | lock thread =>
      have same : (durable.step runtime (.lock thread)).written = durable.written := by
        simp only [DurableSystem.step, DurableSystem.lock]
        split <;> rfl
      exact iff_of_true ⟨included (sound.lock thread), same ▸ lasting.ordered⟩ trivial
  | write thread store =>
      rw [← write_ordered_iff lasting.ordered]
      constructor
      · exact Lasting.ordered
      · intro ordered
        have forward := (write_ordered_iff lasting.ordered thread store).mp ordered
        exact ⟨included (sound.write forward), ordered⟩

theorem Sound.initial (impl : EngineImpl) (disk : Option PersistedState) :
    (DurableSystem.initial impl disk).Sound := by
  have unstamped (stamp : CommitStamp) : ¬(DurableSystem.initial impl disk).Stamped stamp := by
    intro given
    rcases given with ⟨_, held⟩ | returned
    · cases held
    · cases returned
  constructor
  · intro port
    exact Option.head?_toList
  · exact fun stamp stamped => absurd stamped (unstamped stamp)
  · exact fun _ _ pending => by cases pending
  · exact fun _ _ _ pending => by cases pending
  · exact fun _ _ _ pending => by cases pending
  · exact fun _ _ pending => by cases pending
  · exact fun _ member => by cases member

end Steps

end DurableSystem

/--
Over any engine and container, with any number of threads, every acknowledged
mutation stays in the container and its generation never falls exactly when no
write replaces the container with an image of an earlier engine.
-/
theorem durable_iff_writes_forward (runtime : Runtime) (impl : EngineImpl)
    (disk : Option PersistedState) (actions : List DurableAction) :
    Runs.Throughout (DurableSystem.step runtime) DurableSystem.Lasting (.initial impl disk)
        actions ↔
      Runs.Along (DurableSystem.step runtime) DurableSystem.WritesForward (.initial impl disk)
        actions := by
  have first : (DurableSystem.initial impl disk).Lasting := by
    constructor
    · intro _ member
      cases member
    · cases disk <;> simp [DurableSystem.initial]
  have supported (durable : DurableSystem) (action : DurableAction) (sound : durable.Sound)
      (_ : durable.Lasting) (forward : durable.WritesForward action) :
      (durable.step runtime action).Sound :=
    sound.step forward
  exact Runs.throughout_iff_along supported
    (fun _ action sound lasting => DurableSystem.step_lasting_iff sound lasting action)
    (.initial impl disk) first

namespace OvertakenWrite

def runtime : Runtime :=
  { Fixture.runtime with config := Fixture.engineConfig "coordinator" "ports.pf" .first }

def request (attempt : MutationAttemptId) : OwnershipRequest :=
  Fixture.claimRequest (Fixture.envelope "p1" "agent" "boot-a" attempt .first) "owner-a"

/-- A call of a thread, up to the commit of its mutation. -/
def commit (thread : Nat) (mutation : Mutation) : List DurableAction :=
  (Fixture.prepare thread mutation Fixture.verified ++
    [Action.advance thread Fixture.verified]).map .act

/-- The claim is gathered before the release is committed, and written after it. -/
def actions : List DurableAction :=
  .act (.operate (Fixture.bind "p1" "b1")) ::
    commit 1 (.claimOwnership (request "c1")) ++ [.gather 1] ++
    commit 2 (.releaseOwnership (request "c2")) ++ [.gather 2, .lock 2, .write 2 {}] ++
    [.lock 1, .write 1 {}]

def after : DurableSystem :=
  Runs.run (DurableSystem.step runtime) (.initial (.initial runtime.config) none) actions

set_option maxRecDepth 100000 in
/-- The release is acknowledged, and then the container holds the claimed port again. -/
theorem release_overwritten :
    ¬Runs.Throughout (DurableSystem.step runtime) DurableSystem.Lasting
      (.initial (.initial runtime.config) none) actions := by
  intro lasting
  have last : after.Lasting := lasting.last
  have outcome :
      after.acknowledged.map (fun stamp => (stamp.port, stamp.versions.length)) =
          [(("p1" : PortId), 2), ("p1", 3)] ∧
        (after.versions "p1").map (fun record => record.ownership.isSome) =
          [false, true, false] ∧
        after.disk.map (fun container =>
          container.records.all fun record => record.ownership.isSome) = some true := by
    decide +kernel
  obtain ⟨stamps, versions, stored⟩ := outcome
  have released : (("p1" : PortId), 3) ∈
      after.acknowledged.map fun stamp => (stamp.port, stamp.versions.length) := by
    rw [stamps]
    simp
  obtain ⟨stamp, returned, named⟩ := List.mem_map.mp released
  obtain ⟨port, three⟩ := Prod.mk.inj named
  obtain ⟨container, found, record, older, member, since, recorded⟩ :=
    last.included stamp returned
  rw [port] at recorded
  -- Nothing is committed after the release, so only its own record could be the one included.
  have whole : record :: older = after.versions "p1" := by
    have length : (after.versions "p1").length = 3 := by
      simpa using congrArg List.length versions
    have atLeast : 3 ≤ (record :: older).length := three ▸ since.length_le
    exact recorded.eq_of_length_le (length ▸ atLeast)
  rw [← whole, List.map_cons, List.cons.injEq] at versions
  rw [found] at stored
  have claimed := List.all_eq_true.mp (Option.some.inj stored) record member
  rw [versions.1] at claimed
  cases claimed

end OvertakenWrite

end PortFabric
