import PortFabric.Guarantees.Claimability
import PortFabric.Guarantees.Repairs

/-!
# Dead ends

When a port can be brought to the configured standing again. A configuration is
committed by `configure` and by `reconcile` alone, and neither takes a fenced
port that never had one.
-/

set_option autoImplicit false

namespace PortFabric

open Checks PortFabricEngine

section Staffing

variable {runtime : Runtime} {impl : EngineImpl}

/-- A boot identity other than the given one. -/
def otherBoot (boot : WorkerBootId) : WorkerBootId :=
  if boot = ("boot-a" : WorkerBootId) then "boot-b" else "boot-a"

theorem otherBoot_valid (boot : WorkerBootId) : (otherBoot boot).valid = true := by
  unfold otherBoot
  split
  · rfl
  · rfl

theorem otherBoot_ne (boot : WorkerBootId) : boot ≠ otherBoot boot := by
  unfold otherBoot
  split
  · next used =>
      rw [used]
      decide
  · next unused => exact unused

theorem EngineImpl.exists_registrable_of {publisher : PublisherId}
    (named : publisher.valid = true) (established : impl.epoch.valid = true)
    (room : impl.publishers[publisher]? = none → impl.publishers.size < maxPublishers) :
    ∃ boot, impl.Registrable publisher boot impl.epoch := by
  cases present : impl.publishers[publisher]? with
  | none =>
      exact ⟨"boot-a", named, rfl, established, rfl, room,
        fun existing found => by rw [present] at found; cases found⟩
  | some existing =>
      refine ⟨otherBoot existing.boot, named, otherBoot_valid _, established, rfl, room,
        fun other found => ?_⟩
      rw [present] at found
      cases found
      exact otherBoot_ne _

/-- A full table of publishers names one of them: only the null identity is malformed. -/
theorem EngineImpl.exists_named_publisher (full : maxPublishers ≤ impl.publishers.size) :
    ∃ publisher : PublisherId, publisher.valid = true ∧
      (impl.publishers[publisher]?).isSome = true := by
  have bound : impl.publishers.size ≤ (impl.publishers.erase .null).size + 1 :=
    Std.ExtTreeMap.size_le_size_erase
  have remaining : impl.publishers.erase .null ≠ ∅ := by
    intro empty
    have many : 2 ≤ maxPublishers := by decide
    have none := Std.ExtTreeMap.eq_empty_iff_size_eq_zero.mp empty
    omega
  obtain ⟨publisher, member⟩ :=
    not_forall_not.mp (mt Std.ExtTreeMap.eq_empty_iff_forall_not_mem.mpr remaining)
  obtain ⟨other, member⟩ := Std.ExtTreeMap.mem_erase.mp member
  refine ⟨publisher, ?_, Std.ExtTreeMap.isSome_getElem?_iff_mem.mpr member⟩
  by_contra invalid
  have null := StrongId.eq_null_of_not_valid (Bool.not_eq_true _ ▸ invalid)
  subst null
  exact other Std.ReflCmp.compare_self

theorem EngineImpl.exists_registrable (established : impl.epoch.valid = true) :
    ∃ publisher boot, impl.Registrable publisher boot impl.epoch := by
  by_cases room : impl.publishers.size < maxPublishers
  · have named : ("agent-a" : PublisherId).valid = true := rfl
    exact ⟨_, exists_registrable_of named established fun _ => room⟩
  · obtain ⟨publisher, named, present⟩ := exists_named_publisher (Nat.not_lt.mp room)
    refine ⟨publisher, exists_registrable_of named established fun absent => ?_⟩
    rw [absent] at present
    cases present

/-- A run that changes the publishers alone makes the incarnation live. -/
def EngineImpl.Staffs (runtime : Runtime) (impl : EngineImpl) (caller : Incarnation) : Prop :=
  ∃ publishers, impl.Leads runtime { impl with publishers } ∧
    ({ impl with publishers } : EngineImpl).Alive caller.1 caller.2

variable (runtime) in
theorem EngineImpl.WellFormed.registers (wellFormed : impl.WellFormed) {publisher : PublisherId}
    {boot : WorkerBootId} (registrable : impl.Registrable publisher boot impl.epoch) :
    impl.Staffs runtime (publisher, boot) := by
  let registration : Operation := .registerPublisher publisher boot impl.epoch
  have leads : impl.Leads runtime (impl.perform runtime registration) := .single trivial
  obtain ⟨_, _, refused⟩ | ⟨entry, after, _, _, _, booted, unfenced, _⟩ :=
    registerPublisher_effect wellFormed.consistent publisher boot impl.epoch
  · exact absurd registrable refused
  · have same : impl.perform runtime registration =
        { impl with publishers := impl.publishers.insert publisher entry } := after
    exact ⟨_, same ▸ leads, entry, OrderedMap.lookup_insert_self .., booted, unfenced⟩

variable (runtime) in
theorem EngineImpl.WellFormed.exists_staffed (wellFormed : impl.WellFormed)
    (established : impl.epoch.valid = true) : ∃ caller, impl.Staffs runtime caller := by
  obtain ⟨publisher, boot, registrable⟩ := exists_registrable established
  exact ⟨(publisher, boot), wellFormed.registers runtime registrable⟩

theorem EngineImpl.Staffs.trans {publishers : Std.ExtTreeMap PublisherId PublisherRecord}
    {caller : Incarnation} (leads : impl.Leads runtime { impl with publishers })
    (staffs : ({ impl with publishers } : EngineImpl).Staffs runtime caller) :
    impl.Staffs runtime caller := by
  obtain ⟨later, onward, alive⟩ := staffs
  exact ⟨later, leads.trans onward, alive⟩

variable (runtime) in
/-- An incarnation whose publisher has a seat can be brought back, over another one if need be. -/
theorem EngineImpl.WellFormed.revives (wellFormed : impl.WellFormed)
    (established : impl.epoch.valid = true) {publisher : PublisherId} {boot : WorkerBootId}
    (named : publisher.valid = true) (booted : boot.valid = true) (seats : impl.Seats publisher) :
    impl.Staffs runtime (publisher, boot) := by
  have room (absent : impl.publishers[publisher]? = none) :
      impl.publishers.size < maxPublishers := by
    refine seats.resolve_left fun present => ?_
    rw [absent] at present
    cases present
  by_cases present : ∃ existing, impl.publishers[publisher]? = some existing ∧ existing.boot = boot
  · obtain ⟨existing, present, same⟩ := present
    cases fenced : existing.fenced with
    | false => exact ⟨impl.publishers, .refl _, existing, present, same, fenced⟩
    | true =>
        have registrable : impl.Registrable publisher (otherBoot boot) impl.epoch := by
          refine ⟨named, otherBoot_valid _, established, rfl, room, fun other found => ?_⟩
          rw [present] at found
          cases found
          exact same ▸ otherBoot_ne _
        obtain ⟨publishers, leads, entry, stored, other, _⟩ :=
          wellFormed.registers runtime registrable
        have staffed : ({ impl with publishers } : EngineImpl).WellFormed :=
          leads.wellFormed wellFormed
        refine .trans leads (staffed.registers runtime ?_)
        refine ⟨named, booted, established, rfl, fun absent => ?_, fun replaced found => ?_⟩
        · cases absent.symm.trans stored
        · cases found.symm.trans stored
          rw [other]
          exact (otherBoot_ne _).symm
  · exact wellFormed.registers runtime ⟨named, booted, established, rfl, room,
      fun existing found same => present ⟨existing, found, same⟩⟩

end Staffing

section Authority

variable {runtime : Runtime} {impl middle after : EngineImpl} {caller : Incarnation}
  {record other final : PortRecord} {bindings steps count : Nat}

theorem EngineImpl.KeepsTables.unreplaced (tables : impl.KeepsTables after)
    (alike : record.Alike other) (unreplaced : impl.DeviceUnreplaced record) :
    after.DeviceUnreplaced other := by
  unfold DeviceUnreplaced
  rw [tables.devices, alike.parentDevice, alike.device]
  exact unreplaced

/-- A run hands the port to a caller that may act on it, and leaves the repair as it was. -/
structure EngineImpl.HandsOver (runtime : Runtime) (impl : EngineImpl) (record : PortRecord)
    (caller : Incarnation) (after : EngineImpl) (final : PortRecord) : Prop where
  leads : impl.Leads runtime after
  manages : after.Manages runtime caller final
  port : final.port = record.port
  alike : record.Alike final
  tables : impl.KeepsTables after

theorem EngineImpl.HandsOver.after_leads (leads : impl.Leads runtime middle)
    (port : other.port = record.port) (alike : record.Alike other)
    (tables : impl.KeepsTables middle)
    (hands : middle.HandsOver runtime other caller after final) :
    impl.HandsOver runtime record caller after final :=
  ⟨leads.trans hands.leads, hands.manages, hands.port.trans port, alike.trans hands.alike,
    tables.trans hands.tables⟩

/-- The port is handed to a live caller that is entitled to it. -/
theorem EngineImpl.WellFormed.entrusts (wellFormed : impl.WellFormed)
    (running : impl.shuttingDown = false) (found : impl.records[record.port]? = some record)
    (standing : record.lifecycle ≠ .retired) (staffs : impl.Staffs runtime caller)
    (entitled : runtime.config.requireOwnership = true →
      record.entitles caller impl.epoch = true) (room : impl.HasRoom count) :
    ∃ after final, impl.HandsOver runtime record caller after final ∧ after.HasRoom count := by
  obtain ⟨publishers, leads, alive⟩ := staffs
  have staffed : ({ impl with publishers } : EngineImpl).WellFormed := leads.wellFormed wellFormed
  exact ⟨{ impl with publishers }, record,
    ⟨leads, ⟨staffed, running, found, standing, alive, entitled⟩, rfl, .refl record,
      ⟨rfl, rfl, rfl, .refl _, .refl _⟩⟩, room⟩

/-- A live caller claims a port that is not owned exclusively, unless it holds it already. -/
theorem EngineImpl.WellFormed.claims (wellFormed : impl.WellFormed)
    (running : impl.shuttingDown = false) (found : impl.records[record.port]? = some record)
    (standing : record.lifecycle ≠ .retired) (alive : impl.Alive caller.1 caller.2)
    (shared : record.ownership.any PortOwnership.exclusive = false)
    (unreplaced : impl.DeviceUnreplaced record) (settled : record.Settled)
    (room : impl.HasRoom (count + 1)) :
    ∃ after final, impl.HandsOver runtime record caller after final ∧ after.HasRoom count := by
  let request : OwnershipRequest :=
    { envelope := impl.envelopeFor caller record
      ownerKind := .switchAgent
      owner := "owner-a" }
  let mutation : Mutation := .claimOwnership request
  have named : request.namesOwner = true := rfl
  have undelegated : request.delegates = false := rfl
  cases holds : record.ownership.any request.callerHolds with
  | true =>
      have entitled : record.entitles caller impl.epoch = true := by
        obtain ⟨ownership, owned, held⟩ := (Option.any_eq_true _ _).mp holds
        simp only [PortRecord.entitles, owned]
        exact held
      exact ⟨impl, record, ⟨.refl _, ⟨wellFormed, running, found, standing, alive,
        fun _ => entitled⟩, rfl, .refl record, .refl impl⟩, room.mono (Nat.le_succ _)⟩
  | false =>
      have formed : record.Formed := wellFormed.formed _ _ found
      have addresses : impl.Addresses mutation record := .of_envelope rfl found standing alive
      have complete := addresses.complete wellFormed
      have gated : snapshotGates runtime.config mutation record = .ok () :=
        snapshotGates_of_envelope rfl (by simp [ownershipGate, mutation, Mutation.kind])
      have passes : deviceGate mutation record (readContext impl record) = .ok () :=
        unreplaced.passes rfl
      have evident : evidenceFor runtime mutation record {} = .ok {} := rfl
      have built : mutation.build
          { current := record, topology := impl.topology,
            parentDeviceGeneration := (readContext impl record).deviceGeneration,
            capability := {}, profiles := impl.profiles } = .ok (claimPlan record request) :=
        claimOwnership_build_eq named undelegated holds shared rfl
      have validated : validatePlan record (claimPlan record request) = .ok () :=
        (formed.claimPlan_validated named undelegated complete).mpr settled
      obtain ⟨applied, evidence, replaces⟩ :=
        addresses.acts rfl wellFormed running gated passes evident built validated room.advances
      have granted : (grantedOwnership record request).valid = true :=
        grantedOwnership_valid formed.port named undelegated complete
      have held : (grantedOwnership record request).heldBy caller.1 caller.2 impl.epoch = true :=
        grantedOwnership_callerHolds undelegated granted
      let final : PortRecord :=
        (stampPlan mutation (claimPlan record request)).next.settledWith applied
          ((claimPlan record request).settledDrift runtime) evidence
      have alike : record.Alike final := ⟨rfl, rfl, rfl, rfl, rfl, rfl, rfl⟩
      refine ⟨_, final, ⟨.mutate _ _, ?_, rfl, alike, replaces.keepsTables found⟩,
        replaces.hasRoom room⟩
      refine ⟨wellFormed.perform _, replaces.shuttingDown.trans running, replaces.found, standing,
        alive.congr replaces.publishers, fun _ => ?_⟩
      rw [replaces.epoch]
      exact held

/-- Somebody can be registered who claims a port that is not owned exclusively. -/
theorem EngineImpl.WellFormed.exists_claimant (wellFormed : impl.WellFormed)
    (established : impl.epoch.valid = true) (running : impl.shuttingDown = false)
    (found : impl.records[record.port]? = some record) (standing : record.lifecycle ≠ .retired)
    (shared : record.ownership.any PortOwnership.exclusive = false)
    (unreplaced : impl.DeviceUnreplaced record) (settled : record.Settled)
    (room : impl.HasRoom (count + 1)) :
    ∃ caller after final, impl.HandsOver runtime record caller after final ∧
      after.HasRoom count := by
  obtain ⟨caller, publishers, leads, alive⟩ := wellFormed.exists_staffed runtime established
  obtain ⟨after, final, hands, left⟩ :=
    (leads.wellFormed wellFormed).claims running found standing alive shared unreplaced settled room
  exact ⟨caller, after, final, .after_leads leads rfl (.refl record)
    ⟨rfl, rfl, rfl, .refl _, .refl _⟩ hands, left⟩

/-- The engine under the next epoch: every port is free, and the tables stay. -/
structure EngineImpl.Clears (impl after : EngineImpl) : Prop where
  tables : impl.KeepsTables after
  established : after.epoch.valid = true
  shuttingDown : after.shuttingDown = impl.shuttingDown
  generation : after.generation.value ≤ impl.generation.value + 1
  freed : ∀ (port : PortId) (record : PortRecord), impl.records[port]? = some record →
    ∃ kept, after.records[port]? = some kept ∧ kept.port = record.port ∧ record.Alike kept ∧
      kept.ownership = none

theorem EngineImpl.Clears.hasRoom (clears : impl.Clears after) (room : impl.HasRoom (count + 1)) :
    after.HasRoom count := by
  have later := clears.generation
  unfold HasRoom at room ⊢
  omega

/-- The next epoch outlives every ownership. -/
theorem EngineImpl.WellFormed.beginEpoch_clears (wellFormed : impl.WellFormed)
    (established : impl.epoch.valid = true) (advances : impl.epoch.exhaustible = false) :
    impl.Clears (beginEpoch impl).1 := by
  obtain ⟨_, refused⟩ | ⟨_, later, _, after⟩ := beginEpoch_effect_cases impl
  · simp [beginEpoch, established, advances, Outcome.isOk, Outcome.success] at refused
  · rw [after]
    refine ⟨⟨rfl, rfl, rfl, .map .., ?_⟩, ?_, rfl, ?_, fun port record found => ?_⟩
    · refine ⟨Nat.le_of_eq Std.ExtTreeMap.size_map, fun port absent => ?_⟩
      rw [releaseOwnershipBeforeEpoch, releaseWhere_lookup, absent]
      rfl
    · have positive : impl.epoch.value < impl.epoch.next.value := later
      rw [releaseOwnershipBeforeEpoch, releaseWhere_epoch, Generation.valid_iff]
      dsimp only
      omega
    · simp only [releaseOwnershipBeforeEpoch, releaseWhere]
      split
      · omega
      · exact impl.generation.advance_value_le
    · refine ⟨_, by rw [releaseOwnershipBeforeEpoch, releaseWhere_lookup, found]; rfl, ?_⟩
      dsimp only
      split
      · exact ⟨rfl, released_alike .., rfl⟩
      · next kept =>
          refine ⟨rfl, .refl record, ?_⟩
          cases owned : record.ownership with
          | none => rfl
          | some ownership =>
              have granted := wellFormed.granted port record found ownership owned
              simp only [PortRecord.ownedBefore, owned, Option.any_some, decide_eq_true_eq] at kept
              exact absurd (Generation.lt_of_le_of_lt granted later) kept

/-- The owner of a port can be brought back, and acts under the epoch of the engine. -/
theorem EngineImpl.Grounded.revives_owner {ownership : PortOwnership}
    (grounded : impl.Grounded runtime) (established : impl.epoch.valid = true)
    (found : impl.records[record.port]? = some record) (owned : record.ownership = some ownership)
    (seats : impl.Seats ownership.publisher) :
    impl.Staffs runtime (ownership.publisher, ownership.boot) ∧
      record.entitles (ownership.publisher, ownership.boot) impl.epoch = true := by
  have consistent := (grounded.formed _ _ found).ownership
  simp only [PortRecord.ownershipConsistent, owned, Option.all_some] at consistent
  have current : ownership.epoch = impl.epoch := grounded.current _ _ found ownership owned
  constructor
  · have complete := consistent
    simp only [PortOwnership.valid, Bool.and_eq_true] at complete
    exact grounded.toWellFormed.revives runtime established complete.1.1.2 complete.1.2 seats
  · simp [PortRecord.entitles, owned, PortOwnership.heldBy, consistent, current]

/-- Some caller is given mutation authority over the record. -/
theorem EngineImpl.Grounded.handsOver (grounded : impl.Grounded runtime)
    (running : impl.shuttingDown = false) (established : impl.epoch.valid = true)
    (found : impl.records[record.port]? = some record) (standing : record.lifecycle ≠ .retired)
    (settled : record.Settled) (delegates : impl.Delegates runtime record bindings steps)
    (unreplaced : impl.PassesDevice runtime record bindings → impl.DeviceUnreplaced record)
    (room : impl.HasRoom (count + steps)) :
    ∃ caller after final, impl.HandsOver runtime record caller after final ∧
      after.HasRoom count := by
  have wellFormed := grounded.toWellFormed
  have less : impl.HasRoom count := room.mono (Nat.le_add_right _ _)
  have begun (advances : impl.epoch.exhaustible = false) :
      impl.Leads runtime (beginEpoch impl).1 ∧ impl.Clears (beginEpoch impl).1 := by
    have leads : impl.Leads runtime (impl.perform runtime .beginEpoch) := .single trivial
    exact ⟨leads, wellFormed.beginEpoch_clears established advances⟩
  cases delegates with
  | unchecked free =>
      obtain ⟨caller, staffs⟩ := wellFormed.exists_staffed runtime established
      exact ⟨caller, wellFormed.entrusts running found standing staffs
        (fun required => by rw [free] at required; cases required) less⟩
  | unowned free unbound =>
      obtain ⟨caller, staffs⟩ := wellFormed.exists_staffed runtime established
      exact ⟨caller, wellFormed.entrusts running found standing staffs
        (fun _ => by simp [PortRecord.entitles, free, unbound]) less⟩
  | held owned seats =>
      obtain ⟨staffs, entitled⟩ := grounded.revives_owner established found owned seats
      exact ⟨_, wellFormed.entrusts running found standing staffs (fun _ => entitled) less⟩
  | claimed enough shared passes =>
      exact wellFormed.exists_claimant established running found standing shared (unreplaced passes)
        settled (room.mono (Nat.add_le_add_left enough _))
  | released enough advances unbound =>
      obtain ⟨leads, clears⟩ := begun advances
      obtain ⟨kept, stored, port, alike, free⟩ := clears.freed _ _ found
      have formed := leads.wellFormed wellFormed
      obtain ⟨caller, staffs⟩ := formed.exists_staffed runtime clears.established
      have left : (beginEpoch impl).1.HasRoom count :=
        clears.hasRoom (room.mono (Nat.add_le_add_left enough _))
      obtain ⟨after, final, hands, left⟩ :=
        formed.entrusts (clears.shuttingDown.trans running) (port ▸ stored)
          (alike.lifecycle ▸ standing) staffs
          (fun _ => by simp [PortRecord.entitles, free, alike.configuration, unbound]) left
      exact ⟨caller, after, final, .after_leads leads port alike clears.tables hands, left⟩
  | reclaimed enough advances passes =>
      obtain ⟨leads, clears⟩ := begun advances
      obtain ⟨kept, stored, port, alike, free⟩ := clears.freed _ _ found
      have left : (beginEpoch impl).1.HasRoom (count + 1) :=
        clears.hasRoom (room.mono (Nat.add_le_add_left enough _))
      have same : (beginEpoch impl).1.DeviceUnreplaced kept :=
        clears.tables.unreplaced alike (unreplaced passes)
      obtain ⟨caller, after, final, hands, left⟩ :=
        (leads.wellFormed wellFormed).exists_claimant clears.established
          (clears.shuttingDown.trans running) (port ▸ stored) (alike.lifecycle ▸ standing)
          (by simp [free]) same (alike.settled settled) left
      exact ⟨caller, after, final, .after_leads leads port alike clears.tables hands, left⟩

end Authority

section Recovery

variable {runtime : Runtime} {impl ready : EngineImpl} {caller : Incarnation}
  {record : PortRecord} {bindings authority work : Nat}

theorem EngineImpl.Restores.settled (restores : impl.Restores runtime record bindings work) :
    record.Settled := by
  cases restores with
  | first _ unconfigured _ _ _ _ => exact .inr (.inl unconfigured)
  | reconciled _ configured _ _ _ _ _ _ _ => exact .inl (by rw [configured]; rfl)
  | rebound _ _ configured _ _ _ _ _ => exact .inl (by rw [configured]; rfl)
  | unprofiled _ _ configured _ _ => exact .inl (by rw [configured]; rfl)

/-- Once the device is registered under the generation of the record, the repair stays with it. -/
theorem EngineImpl.Restores.raised (restores : impl.Restores runtime record bindings work)
    (raises : impl.Raises runtime ready record.parentDevice record.generations.device bindings)
    (offered : impl.OffersDevice runtime record bindings record.generations.device)
    (replaced : ¬impl.DeviceUnreplaced record) (backed : record.Backed runtime)
    (abreast : impl.Abreast record) (standing : record.lifecycle ≠ .retired) :
    ready.Restores runtime record 0 work := by
  have device : ready.OffersDevice runtime record 0 record.generations.device :=
    raises.registered.offers offered.1
  have unreplaced : ready.DeviceUnreplaced record := (raises.registered.kept offered.1).unreplaced
  cases restores with
  | first enough unconfigured unbound unnumbered _ evident =>
      exact .first enough unconfigured unbound unnumbered device evident
  | @reconciled committed capability _ topology enough configured profile evident supported _
      oriented later _ =>
      refine .reconciled enough configured (raises.profiles ▸ profile) evident supported device
        oriented (raises.topology ▸ later) (.inl ?_)
      by_cases live : record.lifecycle.isLive = true
      · obtain ⟨binding, registered, earlier⟩ := abreast live committed configured
        refine .inr (.inr (.inr (.inl ?_)))
        have room := offered.2
        rw [registered] at room
        rcases room with same | ⟨newer, _⟩
        · exact absurd (fun other found => by rw [registered] at found; cases found; exact same)
            replaced
        · exact (Generation.ne_of_lt (Generation.lt_of_le_of_lt earlier newer)).symm
      · exact .inl (backed.requiresReconciliation configured (by simpa using live) standing)
  | rebound enough fenced configured profile _ _ renewable supportable =>
      exact .rebound enough fenced configured (raises.profiles ▸ profile) (.inl unreplaced) device
        renewable supportable
  | unprofiled enough live configured _ moves =>
      refine .unprofiled enough live configured device (moves.imp_left fun moves => ?_)
      unfold MovesOn at moves ⊢
      rw [raises.topology]
      exact moves.imp_right fun moves => moves.imp_right fun moves => moves.imp_left fun device =>
        ⟨device.1, raises.size device.2⟩

theorem EngineImpl.Delegates.prepared (delegates : impl.Delegates runtime record bindings authority)
    (prepares : impl.Prepares runtime ready bindings) (unreplaced : ready.DeviceUnreplaced record) :
    ready.Delegates runtime record 0 authority := by
  cases delegates with
  | unchecked free => exact .unchecked free
  | unowned free unbound => exact .unowned free unbound
  | held owned seats =>
      unfold Seats at seats
      rw [← prepares.publishers] at seats
      exact .held owned seats
  | claimed enough shared _ => exact .claimed enough shared (.inl unreplaced)
  | released enough advances unbound => exact .released enough (prepares.epoch ▸ advances) unbound
  | reclaimed enough advances _ =>
      exact .reclaimed enough (prepares.epoch ▸ advances) (.inl unreplaced)

/-- A recoverable port whose device gate, where it can be passed at all, is passed already. -/
structure EngineImpl.Readied (runtime : Runtime) (impl : EngineImpl) (record : PortRecord)
    (bindings authority work : Nat) : Prop where
  running : impl.shuttingDown = false
  established : impl.epoch.valid = true
  found : impl.records[record.port]? = some record
  delegates : impl.Delegates runtime record bindings authority
  restores : impl.Restores runtime record bindings work
  unreplaced : impl.PassesDevice runtime record bindings → impl.DeviceUnreplaced record
  room : impl.HasRoom (bindings + work + authority)

theorem EngineImpl.Grounded.readies (grounded : impl.Grounded runtime)
    (found : impl.records[record.port]? = some record) (standing : record.lifecycle ≠ .retired)
    (recoverable : impl.Recoverable runtime record) :
    ∃ ready bindings authority work, impl.Leads runtime ready ∧
      ready.Readied runtime record bindings authority work := by
  obtain ⟨running, established, bindings, authority, work, delegates, restores, room⟩ := recoverable
  have room : impl.HasRoom (bindings + work + authority) := by
    rwa [Nat.add_right_comm] at room
  by_cases unreplaced : impl.DeviceUnreplaced record
  · exact ⟨impl, bindings, authority, work, .refl _, running, established, found, delegates,
      restores, fun _ => unreplaced, room⟩
  · by_cases offered : impl.OffersDevice runtime record bindings record.generations.device
    · have formed := grounded.formed _ _ found
      obtain ⟨ready, raises⟩ := exists_registered running formed.device offered
      have passes : ready.DeviceUnreplaced record := (raises.registered.kept offered.1).unreplaced
      have left : ready.HasRoom (0 + work + authority) := by
        refine raises.toPrepares.hasRoom ?_
        rwa [Nat.zero_add, ← Nat.add_assoc]
      exact ⟨ready, 0, authority, work, raises.leads, raises.shuttingDown.trans running,
        raises.epoch ▸ established, raises.records _ _ found,
        delegates.prepared raises.toPrepares passes,
        restores.raised raises offered unreplaced (grounded.backed _ _ found)
          (grounded.abreast _ _ found) standing, fun _ => passes, left⟩
    · exact ⟨impl, bindings, authority, work, .refl _, running, established, found, delegates,
        restores, fun passes => absurd (passes.resolve_left unreplaced) offered, room⟩

theorem EngineImpl.Leads.grounded (leads : impl.Leads runtime ready)
    (grounded : impl.Grounded runtime) : ready.Grounded runtime :=
  Runs.Reaches.keeps (fun _ operation _ held => EngineImpl.Grounded.perform held operation)
    leads grounded

theorem EngineImpl.Grounded.recovers (grounded : impl.Grounded runtime)
    (found : impl.records[record.port]? = some record) (standing : record.lifecycle ≠ .retired)
    (recoverable : impl.Recoverable runtime record) :
    impl.ReachesConfigured runtime record.port := by
  obtain ⟨ready, bindings, authority, work, leads, readied⟩ :=
    grounded.readies found standing recoverable
  have restores := readied.restores
  obtain ⟨caller, after, final, hands, room⟩ :=
    (leads.grounded grounded).handsOver readied.running readied.established readied.found standing
      restores.settled readied.delegates readied.unreplaced readied.room
  have onward : impl.Leads runtime after := leads.trans hands.leads
  have backed := (onward.grounded grounded).backed _ _ hands.manages.found
  have restored : after.Restores runtime final bindings work :=
    (restores.narrows hands.tables.symm.narrows).alike hands.alike.symm
  have unreplaced (passes : after.PassesDevice runtime final bindings) :
      after.DeviceUnreplaced final := by
    have before := readied.unreplaced
      ((hands.tables.narrows.passes passes).congr hands.alike.parentDevice hands.alike.device)
    exact hands.tables.unreplaced hands.alike before
  have reaches := hands.manages.restores backed restored unreplaced room
  rw [hands.port] at reaches
  exact onward.reachesConfigured reaches

end Recovery

/--
A port that is not retired can be configured, from any reachable state, exactly
when it is configured already, or some caller can have authority over it and the
registries, the evidence and the engine generation leave room for the repair.
-/
theorem configured_again (runtime : Runtime) (operations : List Operation) {port : PortId}
    {record : PortRecord}
    (found : (EngineImpl.after runtime operations).records[port]? = some record)
    (standing : record.lifecycle ≠ .retired) :
    (EngineImpl.after runtime operations).ReachesConfigured runtime port ↔
      record.lifecycle = .configured ∨
        (EngineImpl.after runtime operations).Recoverable runtime record := by
  have grounded := EngineImpl.after_grounded runtime operations
  have own : record.port = port := grounded.keyed _ _ found
  constructor
  · intro reaches
    exact (grounded.attains found reaches).imp_right And.right
  · intro given
    rcases given with configured | recoverable
    · exact ⟨_, record, .refl _, found, configured⟩
    · rw [← own] at found ⊢
      exact grounded.recovers found standing recoverable

namespace UnansweredConfiguration

def port : PortId := "syn-sw1-p01"

def binding : List Operation := [Fixture.bind port "bind-1"]

/-- The adapter gives no certain answer to the first configuration of the port. -/
def operations : List Operation :=
  binding ++
    [ .mutate
        (Fixture.configuration (Fixture.envelope port "agent-a" "boot-a" "configure-1" .first))
        Fixture.uncertain ]

def bound : EngineImpl := EngineImpl.after Fixture.runtime binding

def unanswered : EngineImpl := EngineImpl.after Fixture.runtime operations

def untouched (record : PortRecord) : Bool :=
  record.lifecycle = .unconfigured && record.configuration.isNone && record.ownership.isNone &&
    record.generations.configuration = .null && record.generations.device.valid &&
    (!record.capability.present || !record.capability.generation.exhaustible) &&
    (bound.devices[record.parentDevice]?).any fun device =>
      device.generation = record.generations.device

def fenced (record : PortRecord) : Bool :=
  record.lifecycle = .revalidationRequired && record.configuration.isNone

/-- What was fenced before its first configuration takes none. -/
theorem not_recoverable {record : PortRecord} (given : fenced record = true) :
    record.lifecycle ≠ .retired ∧
      ¬(record.lifecycle = .configured ∨ unanswered.Recoverable Fixture.runtime record) := by
  simp only [fenced, Bool.and_eq_true, decide_eq_true_eq, Option.isNone_iff_eq_none] at given
  obtain ⟨standing, unbound⟩ := given
  refine ⟨by rw [standing]; decide, fun reached => ?_⟩
  rcases reached with configured | recoverable
  · rw [standing] at configured
    cases configured
  · obtain ⟨_, _, _, _, restores, _⟩ := recoverable.repairs
    have settled := restores.settled
    simp [PortRecord.Settled, unbound, standing] at settled

set_option maxRecDepth 100000 in
theorem exists_fenced :
    ∃ record, unanswered.records[port]? = some record ∧ fenced record = true := by
  have reached : (unanswered.records[port]?).any fenced = true := by decide +kernel
  exact (Option.any_eq_true _ _).mp reached

set_option maxRecDepth 100000 in
/-- A port that was bound and left alone can be configured, and a port that was fenced before its
first configuration cannot. -/
theorem bound_reaches :
    bound.ReachesConfigured Fixture.runtime port ∧
      ¬unanswered.ReachesConfigured Fixture.runtime port := by
  constructor
  · have reached : (bound.records[port]?).any untouched = true ∧ bound.shuttingDown = false ∧
        bound.epoch.valid = true ∧ bound.generation.value + (0 + 0 + 2) ≤ maxU64 := by
      decide +kernel
    obtain ⟨present, running, established, room⟩ := reached
    obtain ⟨record, found, given⟩ := (Option.any_eq_true _ _).mp present
    simp only [untouched, Bool.and_eq_true, Bool.or_eq_true, Bool.not_eq_true', decide_eq_true_eq,
      Option.isNone_iff_eq_none, Option.any_eq_true] at given
    obtain ⟨⟨⟨⟨⟨⟨unconfigured, unbound⟩, free⟩, unnumbered⟩, valid⟩, evidence⟩, device, known,
      same⟩ := given
    have registered : bound.RegisteredAs record.parentDevice record.generations.device :=
      ⟨device, known, same⟩
    have renewable : record.Renewable := fun present => by simpa [present] using evidence
    have standing : record.lifecycle ≠ .retired := by
      rw [unconfigured]
      decide
    exact (configured_again Fixture.runtime binding found standing).mpr
      (.inr ⟨running, established, 0, 0, 2, .unowned free unbound,
        .first (by decide) unconfigured unbound unnumbered (registered.offers valid)
          (.inr ⟨Nat.le_refl 2, renewable⟩), room⟩)
  · intro reaches
    obtain ⟨record, found, given⟩ := exists_fenced
    obtain ⟨standing, stranded⟩ := not_recoverable given
    exact stranded ((configured_again Fixture.runtime operations found standing).mp reaches)

/-- After an uncertain first configuration no run without loads configures the port. -/
theorem unanswered_stranded :
    ∃ record, unanswered.records[port]? = some record ∧ record.lifecycle ≠ .retired ∧
      ¬unanswered.ReachesConfigured Fixture.runtime port := by
  obtain ⟨record, found, given⟩ := exists_fenced
  obtain ⟨standing, stranded⟩ := not_recoverable given
  have grounded := EngineImpl.after_grounded Fixture.runtime operations
  exact ⟨record, found, standing, fun reaches =>
    stranded ((grounded.attains found reaches).imp_right And.right)⟩

end UnansweredConfiguration

end PortFabric
