import PortFabric.Engine.Fixture
import PortFabric.Engine.RecoveryProperties

/-!
# Ownership currency

Every ownership is held by a live incarnation of the current epoch, as long as
no registration replaces an incarnation that owns a port and no transfer names
an incarnation that is not alive.
-/

set_option autoImplicit false

namespace PortFabric

/-- The holder is the current, unfenced incarnation of its publisher, in the current epoch. -/
def EngineImpl.Holds (impl : EngineImpl) (ownership : PortOwnership) : Prop :=
  impl.Alive ownership.publisher ownership.boot ∧ ownership.epoch = impl.epoch

/-- Every ownership is held. -/
def EngineImpl.OwnershipCurrent (impl : EngineImpl) : Prop :=
  OrderedMap.Every
    (fun _ record => ∀ ownership, record.ownership = some ownership → impl.Holds ownership)
    impl.records

section Records

variable {before after : EngineImpl}

/-- Ownership stays current while it is inherited and no holder ends. -/
theorem EngineImpl.OwnershipCurrent.inherit (current : before.OwnershipCurrent)
    (inherits : InheritsOwnership before.records after.records)
    (alive : ∀ publisher boot, before.Alive publisher boot → after.Alive publisher boot)
    (epoch : after.epoch = before.epoch) : after.OwnershipCurrent := by
  intro port record found ownership owned
  obtain ⟨source, present, same⟩ := inherits port record ownership found owned
  obtain ⟨holder, granted⟩ := current port source present ownership same
  exact ⟨alive _ _ holder, granted.trans epoch.symm⟩

theorem EngineImpl.OwnershipCurrent.congr (current : before.OwnershipCurrent)
    (records : after.records = before.records) (publishers : after.publishers = before.publishers)
    (epoch : after.epoch = before.epoch) : after.OwnershipCurrent :=
  current.inherit (fun _ record _ found owned => ⟨record, records ▸ found, owned⟩)
    (fun _ _ alive => alive.congr publishers) epoch

theorem EngineImpl.ownershipCurrent_persisted (runtime : Runtime) (store : StoreAnswers)
    (impl : EngineImpl) :
    (impl.persistLockedState runtime store).1.OwnershipCurrent ↔ impl.OwnershipCurrent := by
  obtain ⟨_, same⟩ := EngineImpl.persistLockedState_eq runtime store impl
  rw [same]
  exact ⟨fun current => current.congr rfl rfl rfl, fun current => current.congr rfl rfl rfl⟩

/-- Replacing one record keeps ownership current exactly when its ownership is held. -/
theorem EngineImpl.OwnershipCurrent.replace_iff (current : before.OwnershipCurrent) {port : PortId}
    {source final : PortRecord} :
    (before.replaceRecord port source final).OwnershipCurrent ↔
      ∀ ownership, final.ownership = some ownership → before.Holds ownership := by
  have unchanged (ownership : PortOwnership) :
      (before.replaceRecord port source final).Holds ownership ↔ before.Holds ownership := Iff.rfl
  constructor
  · intro after ownership owned
    exact (unchanged ownership).mp
      (after port final (OrderedMap.lookup_insert_self ..) ownership owned)
  · intro holds other record found ownership owned
    rw [EngineImpl.replaceRecord_records, OrderedMap.lookup_insert] at found
    split at found
    · cases found
      exact (unchanged ownership).mpr (holds ownership owned)
    · exact (unchanged ownership).mpr (current other record found ownership owned)

end Records

section Steps

variable {runtime : Runtime} {impl : EngineImpl}

/--
A transfer that commits names a live incarnation, and no registration replaces
an incarnation that owns a port.
-/
def KeepsOwners (runtime : Runtime) (impl : EngineImpl) : Operation → Prop
  | .mutate (.transferOwnership request) answers =>
      request.delegates = true →
        ∀ snapshot plan final,
          Commits runtime (.transferOwnership request) answers impl snapshot plan final →
            impl.Alive request.delegatePublisher request.delegateBoot
  | .registerPublisher publisher boot epoch =>
      impl.Registrable publisher boot epoch →
        ∀ existing, impl.publishers[publisher]? = some existing →
          OrderedMap.Every (fun _ record => record.ownedBy publisher existing.boot = false)
            impl.records
  | _ => True

theorem Planned.caller_holds {mutation : Mutation} {answers : MutationAnswers}
    {snapshot : PortRecord} {plan : MutationPlan}
    (planned : Planned runtime mutation answers impl snapshot plan) :
    (impl.authorised runtime mutation).Alive mutation.authority.publisher
        mutation.authority.boot ∧
      mutation.authority.epoch = (impl.authorised runtime mutation).epoch := by
  refine ⟨EngineImpl.alive_authorised planned.authorised, ?_⟩
  rw [EngineImpl.authorised_epoch]
  exact (EngineImpl.checkAuthority_ok planned.authorised).2.1

theorem OwnershipRequest.callerHolds_eq {request : OwnershipRequest} {ownership : PortOwnership}
    (holds : request.callerHolds ownership = true) :
    ownership.publisher = request.envelope.authority.publisher ∧
      ownership.boot = request.envelope.authority.boot := by
  simp only [callerHolds, PortOwnership.heldBy, Bool.and_eq_true, decide_eq_true_eq] at holds
  exact ⟨holds.1.1.2, holds.1.2⟩

theorem EngineImpl.OwnershipCurrent.authorised {mutation : Mutation}
    (current : impl.OwnershipCurrent) :
    (impl.authorised runtime mutation).OwnershipCurrent :=
  current.inherit
    (fun _ record _ found owned => ⟨record, EngineImpl.authorised_records ▸ found, owned⟩)
    (fun _ _ alive => alive.authorised) EngineImpl.authorised_epoch

section Commit

variable {answers : MutationAnswers} {snapshot final : PortRecord} {plan : MutationPlan}

theorem Commits.ownership_holds {mutation : Mutation}
    (commits : Commits runtime mutation answers impl snapshot plan final)
    (current : impl.OwnershipCurrent) (other : mutation.kind ≠ .transferOwnership)
    (ownership : PortOwnership) (owned : final.ownership = some ownership) :
    (impl.authorised runtime mutation).Holds ownership := by
  have found := commits.toPlanned.authorised_found
  obtain ⟨_, proposal, _, _, _, built, _, rfl, _⟩ := commits.spec
  have proposed : proposal.next.ownership = some ownership := owned
  cases Mutation.build_ownership built with
  | kept same _ => exact current.authorised _ _ found ownership (same.symm.trans proposed)
  | ended none _ =>
      rw [none] at proposed
      cases proposed
  | claimed requested undelegated granted _ =>
      subst requested
      rw [granted] at proposed
      cases proposed
      obtain ⟨alive, epoch⟩ := commits.toPlanned.caller_holds
      refine ⟨?_, epoch⟩
      simp only [grantedOwnership, undelegated, Bool.false_eq_true, if_false]
      exact alive
  | transferred requested _ _ =>
      subst requested
      exact absurd rfl other

theorem Commits.transfer_spec {request : OwnershipRequest}
    (commits : Commits runtime (.transferOwnership request) answers impl snapshot plan final) :
    final.ownership = some (grantedOwnership snapshot request) ∧
      ∃ ownership, snapshot.ownership = some ownership ∧
        request.callerHolds ownership = true := by
  obtain ⟨_, proposal, _, _, _, built, _, rfl, _⟩ := commits.spec
  obtain ⟨ownership, owned, holds, granted⟩ := buildTransfer_ok built
  obtain ⟨_, _, _, next⟩ := grantPlan_ok granted
  exact ⟨congrArg PortRecord.ownership next, ownership, owned, holds⟩

theorem Commits.transfer_caller_alive {request : OwnershipRequest}
    (commits : Commits runtime (.transferOwnership request) answers impl snapshot plan final)
    (current : impl.OwnershipCurrent) :
    impl.Alive request.envelope.authority.publisher request.envelope.authority.boot := by
  obtain ⟨_, ownership, owned, holds⟩ := commits.transfer_spec
  obtain ⟨publisher, boot⟩ := request.callerHolds_eq holds
  rw [← publisher, ← boot]
  exact (current _ snapshot commits.toPlanned.snapshot_found ownership owned).1

/-- The granted ownership is held exactly when a named incarnation is alive. -/
theorem Commits.transfer_holds_iff {request : OwnershipRequest}
    (commits : Commits runtime (.transferOwnership request) answers impl snapshot plan final)
    (current : impl.OwnershipCurrent) :
    impl.Holds (grantedOwnership snapshot request) ↔
      (request.delegates = true →
        impl.Alive request.delegatePublisher request.delegateBoot) := by
  have alive := commits.transfer_caller_alive current
  have epoch : request.envelope.authority.epoch = impl.epoch :=
    (EngineImpl.checkAuthority_ok commits.toPlanned.authorised).2.1
  cases delegates : request.delegates with
  | true => simp [EngineImpl.Holds, grantedOwnership, delegates, epoch]
  | false => simpa [EngineImpl.Holds, grantedOwnership, delegates, epoch] using alive

theorem Commits.ownershipCurrent_iff {mutation : Mutation}
    (commits : Commits runtime mutation answers impl snapshot plan final)
    (current : impl.OwnershipCurrent) :
    ((impl.authorised runtime mutation).replaceRecord mutation.port snapshot
        final).OwnershipCurrent ↔
      KeepsOwners runtime impl (.mutate mutation answers) := by
  rw [current.authorised.replace_iff]
  by_cases transfer : mutation.kind = .transferOwnership
  · cases mutation with
    | transferOwnership request =>
        have same : impl.authorised runtime (.transferOwnership request) = impl :=
          (commits.transfer_caller_alive current).authorised_eq
        have held := commits.transfer_holds_iff current
        rw [same, commits.transfer_spec.1]
        constructor
        · intro holds delegates _ _ _ _
          exact held.mp (holds _ rfl) delegates
        · intro keeps ownership granted
          cases granted
          exact held.mpr fun delegates => keeps delegates _ _ _ commits
    | _ => cases transfer
  · refine iff_of_true (commits.ownership_holds current transfer) ?_
    cases mutation with
    | transferOwnership request => exact absurd rfl transfer
    | _ => trivial

end Commit

theorem EngineImpl.mutate_ownershipCurrent_iff (current : impl.OwnershipCurrent)
    (mutation : Mutation) (answers : MutationAnswers) :
    (executeMutation runtime mutation answers impl).1.OwnershipCurrent ↔
      KeepsOwners runtime impl (.mutate mutation answers) := by
  have authorised : (impl.authorised runtime mutation).OwnershipCurrent := current.authorised
  have unmoved (uncommitted : ∀ snapshot plan final,
      ¬Commits runtime mutation answers impl snapshot plan final) :
      KeepsOwners runtime impl (.mutate mutation answers) := by
    cases mutation with
    | transferOwnership request =>
        exact fun _ _ _ _ commits => absurd commits (uncommitted _ _ _)
    | _ => trivial
  have effect := executeMutation_effect runtime mutation answers impl
  generalize (executeMutation runtime mutation answers impl).1 = after at effect ⊢
  cases effect with
  | unrecorded uncommitted _ frame =>
      refine iff_of_true ?_ (unmoved uncommitted)
      rcases frame with rfl | rfl
      · exact current
      · exact authorised
  | committed commits =>
      rw [EngineImpl.ownershipCurrent_persisted]
      exact commits.ownershipCurrent_iff current
  | @doubted snapshot plan generation detail doubts =>
      have found := doubts.toPlanned.authorised_found
      rw [EngineImpl.ownershipCurrent_persisted, authorised.replace_iff]
      refine iff_of_true (fun ownership owned => ?_)
        (unmoved fun _ _ _ commits => commits.not_doubts doubts)
      rw [PortRecord.uncertain_ownership] at owned
      exact authorised _ _ found ownership owned

section Registry

/-- A registration keeps ownership current exactly when no port is owned by what it replaces. -/
theorem EngineImpl.register_ownershipCurrent_iff (consistent : impl.PublishersConsistent)
    (current : impl.OwnershipCurrent) (publisher : PublisherId) (boot : WorkerBootId)
    (epoch : CoordinatorEpoch) :
    (PortFabricEngine.registerPublisher impl publisher boot epoch).1.OwnershipCurrent ↔
      KeepsOwners runtime impl (.registerPublisher publisher boot epoch) := by
  obtain ⟨same, _, refused⟩ | ⟨entry, after, _, registrable, _, named, unfenced, _⟩ :=
    registerPublisher_effect consistent publisher boot epoch
  · rw [same]
    exact iff_of_true current fun registrable => absurd registrable refused
  · rw [after]
    constructor
    · intro afterwards _ existing present port record found
      cases owned : record.ownership with
      | none => simp [PortRecord.ownedBy, owned]
      | some ownership =>
          obtain ⟨⟨holder, registered, holds, _⟩, _⟩ := afterwards port record found ownership owned
          by_contra held
          simp only [PortRecord.ownedBy, owned, Option.any_some, Bool.not_eq_false,
            Bool.and_eq_true, decide_eq_true_eq] at held
          obtain ⟨rfl, sameBoot⟩ := held
          have replaced : entry = holder := by
            simpa [OrderedMap.lookup_insert] using registered
          apply registrable.replaces existing present
          rw [← sameBoot, ← holds, ← replaced, named]
    · intro keeps port record found ownership owned
      obtain ⟨⟨holder, present, holds, free⟩, granted⟩ := current port record found ownership owned
      refine ⟨?_, granted⟩
      by_cases same : publisher = ownership.publisher
      · subst same
        have unowned := keeps registrable holder present port record found
        simp [PortRecord.ownedBy, owned, holds] at unowned
      · exact ⟨holder, (OrderedMap.lookup_insert_of_ne same).trans present, holds, free⟩

theorem EngineImpl.fence_ownershipCurrent (consistent : impl.PublishersConsistent)
    (current : impl.OwnershipCurrent) (publisher : PublisherId) (boot : WorkerBootId) :
    (PortFabricEngine.fencePublisher impl publisher boot).1.OwnershipCurrent := by
  obtain ⟨same, _⟩ | ⟨existing, present, _, _, _, after⟩ :=
    fencePublisher_effect_cases impl publisher boot
  · rw [same]
    exact current
  · rw [after]
    intro port record found ownership owned
    rw [releaseOwnershipOf, releaseWhere_lookup] at found
    obtain ⟨source, held, rfl⟩ := Option.map_eq_some_iff.mp found
    split at owned
    · cases owned
    · next foreign =>
        obtain ⟨⟨holder, registered, holds, free⟩, granted⟩ :=
          current port source held ownership owned
        refine ⟨?_, granted⟩
        by_cases same : publisher = ownership.publisher
        · subst same
          rw [present] at registered
          cases registered
          have stored := (consistent _ existing present).1
          simp [PortRecord.ownedBy, owned, holds, stored] at foreign
        · exact ⟨holder, (OrderedMap.lookup_insert_of_ne same).trans registered, holds, free⟩

theorem EngineImpl.beginEpoch_ownershipCurrent (impl : EngineImpl)
    (current : impl.OwnershipCurrent) :
    (PortFabricEngine.beginEpoch impl).1.OwnershipCurrent := by
  obtain ⟨same, _⟩ | ⟨_, later, _, after⟩ := beginEpoch_effect_cases impl
  · rw [same]
    exact current
  · rw [after]
    intro port record found ownership owned
    rw [releaseOwnershipBeforeEpoch, releaseWhere_lookup] at found
    obtain ⟨source, held, rfl⟩ := Option.map_eq_some_iff.mp found
    split at owned
    · cases owned
    · next kept =>
        obtain ⟨_, granted⟩ := current port source held ownership owned
        simp [PortRecord.ownedBefore, owned, granted, later] at kept

end Registry

/-- One operation keeps ownership current exactly when it keeps the owners. -/
theorem EngineImpl.perform_ownershipCurrent_iff (consistent : impl.PublishersConsistent)
    (current : impl.OwnershipCurrent) (operation : Operation) :
    (impl.perform runtime operation).OwnershipCurrent ↔ KeepsOwners runtime impl operation := by
  have frame := perform_setting runtime impl operation
  cases operation with
  | mutate mutation answers => exact impl.mutate_ownershipCurrent_iff current mutation answers
  | registerPublisher publisher boot epoch =>
      exact impl.register_ownershipCurrent_iff consistent current publisher boot epoch
  | bindPort request answers =>
      obtain ⟨records, publishers, epoch⟩ := bindPort_effect runtime impl request answers
      exact iff_of_true
        (current.inherit records.inherits (fun _ _ alive => alive.congr publishers) epoch) trivial
  | beginEpoch => exact iff_of_true (impl.beginEpoch_ownershipCurrent current) trivial
  | fencePublisher publisher boot =>
      exact iff_of_true (fence_ownershipCurrent consistent current publisher boot) trivial
  | defineProfile | registerDevice | setTopologyGeneration | save | shutdown =>
      exact iff_of_true
        (current.congr (frame rfl).records (frame rfl).publishers (frame rfl).epoch) trivial
  | load container =>
      refine iff_of_true ?_ trivial
      obtain ⟨_, _, same⟩ | ⟨state, _, loaded⟩ := load_effect runtime impl container
      · rw [EngineImpl.perform, same]
        exact current.congr rfl rfl rfl
      · intro port record found ownership owned
        obtain ⟨⟨persisted, rfl⟩, _⟩ := loaded.recovered _ _ found
        rw [PortRecord.recovered_ownership] at owned
        cases owned

end Steps

/--
Along a run on a fresh engine, every ownership is held by a live incarnation of
the current epoch exactly when every operation keeps the owners.
-/
theorem ownership_current_throughout_iff (runtime : Runtime) (operations : List Operation) :
    Runs.Throughout (EngineImpl.perform runtime) EngineImpl.OwnershipCurrent
        (.initial runtime.config) operations ↔
      Runs.Along (EngineImpl.perform runtime) (KeepsOwners runtime) (.initial runtime.config)
        operations := by
  have consistent : (EngineImpl.initial runtime.config).PublishersConsistent :=
    OrderedMap.Every.empty
  have current : (EngineImpl.initial runtime.config).OwnershipCurrent := OrderedMap.Every.empty
  have supported (impl : EngineImpl) (operation : Operation)
      (consistent : impl.PublishersConsistent) (_ : impl.OwnershipCurrent)
      (_ : KeepsOwners runtime impl operation) :
      (impl.perform runtime operation).PublishersConsistent :=
    consistent.perform operation
  exact Runs.throughout_iff_along supported
    (fun _ operation consistent current =>
      EngineImpl.perform_ownershipCurrent_iff consistent current operation)
    consistent current

namespace ReplacedOwner

def port : PortId := "syn-sw1-p01"

/-- The owner of a port registers under a new boot identity. -/
def operations : List Operation :=
  [ Fixture.bind port "bind-1",
    .mutate
      (Fixture.claim (Fixture.envelope port "agent-a" "boot-a" "claim-1" .first) "owner-a") {},
    .registerPublisher "agent-a" "boot-b" .first ]

set_option maxRecDepth 100000 in
/-- The port stays owned by the incarnation that was replaced. -/
theorem ownership_outlives_incarnation :
    ¬(EngineImpl.after Fixture.runtime operations).OwnershipCurrent := by
  have owned : ((EngineImpl.after Fixture.runtime operations).records[port]?).bind
      (fun record => record.ownership.map fun ownership =>
        (ownership.publisher, ownership.boot)) =
        some (("agent-a" : PublisherId), ("boot-a" : WorkerBootId)) := by
    decide +kernel
  have registered : ((EngineImpl.after Fixture.runtime operations).publishers[
      ("agent-a" : PublisherId)]?).map PublisherRecord.boot = some ("boot-b" : WorkerBootId) := by
    decide +kernel
  obtain ⟨record, found, holder⟩ := Option.bind_eq_some_iff.mp owned
  obtain ⟨ownership, granted, same⟩ := Option.map_eq_some_iff.mp holder
  obtain ⟨publisher, boot⟩ := Prod.mk.inj same
  intro current
  obtain ⟨⟨existing, present, holds, _⟩, _⟩ := current port record found ownership granted
  rw [publisher] at present
  rw [present] at registered
  have differ : existing.boot = ("boot-b" : WorkerBootId) := by simpa using registered
  rw [holds, boot] at differ
  revert differ
  decide +kernel

end ReplacedOwner

end PortFabric
