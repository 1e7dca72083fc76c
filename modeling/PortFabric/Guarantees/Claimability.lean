import PortFabric.Engine.Acceptance
import PortFabric.Engine.Fixture
import PortFabric.IdentifierProperties

/-!
# Claimability

When a live incarnation can claim an unowned port. A claim passes the device
gate as every other mutation does, so the ports of a replaced device cannot be
claimed again.
-/

set_option autoImplicit false

namespace PortFabric

open Checks PortFabricEngine

/-- The caller may take the answer for the success of the call. -/
def Reply.accepted : Reply → Bool
  | .result answer => answer.accepted
  | .undefinedBehaviour => false

/-- The request states no generation it expects. -/
def AuthorityContext.expectsNothing (authority : AuthorityContext) : Bool :=
  !authority.expectedTopology.valid && !authority.expectedCapability.valid &&
    !authority.expectedConfiguration.valid && !authority.expectedDevice.valid

/-- A live incarnation claims the unowned port for a legal owner. -/
structure EngineImpl.MayClaim (impl : EngineImpl) (request : OwnershipRequest)
    (record : PortRecord) : Prop
    extends impl.Addresses (.claimOwnership request) record where
  unowned : record.ownership = none
  named : request.namesOwner = true
  undelegated : request.delegates = false
  expectsNothing : request.envelope.authority.expectsNothing = true

def PortRecord.claimed (record : PortRecord) (request : OwnershipRequest) : PortRecord :=
  record.reowned (some (grantedOwnership record request)) "OWNERSHIP_CLAIMED" request.owner.value

def claimPlan (record : PortRecord) (request : OwnershipRequest) : MutationPlan where
  expected := .capture record
  next := record.claimed request

/-- The state that holds the claimed port. -/
def EngineImpl.claimed (impl : EngineImpl) (request : OwnershipRequest) (record : PortRecord) :
    EngineImpl :=
  impl.replaceRecord request.envelope.port record
    (stampPlan (.claimOwnership request) (claimPlan record request)).next

/-- Automatic persistence writes the state. -/
def EngineImpl.Persists (runtime : Runtime) (store : StoreAnswers) (impl : EngineImpl) : Prop :=
  runtime.config.persistence = .automatic →
    runtime.config.persistencePath.isEmpty = false ∧
      (savePersistedState (impl.gatherState runtime.config) store).isOk = true

/-- What lets a claim through. -/
structure EngineImpl.LetsClaim (runtime : Runtime) (store : StoreAnswers) (impl : EngineImpl)
    (request : OwnershipRequest) (record : PortRecord) : Prop where
  running : impl.shuttingDown = false
  room : impl.generation.exhaustible = false
  /-- The device was not replaced since the port was bound. -/
  device : ∀ binding, impl.devices[record.parentDevice]? = some binding →
    binding.generation = record.generations.device
  /-- No uncertain first configuration left the port without a standing. -/
  settled : record.Settled
  persists : (impl.claimed request record).Persists runtime store

section Grants

variable {record : PortRecord} {request : OwnershipRequest}

/-- The ownership a claim of a legal owner grants is complete. -/
theorem grantedOwnership_valid (port : record.port.valid = true)
    (named : request.namesOwner = true) (undelegated : request.delegates = false)
    (complete : request.envelope.authority.valid = true) :
    (grantedOwnership record request).valid = true := by
  have lead : Grammatical (text "own") := validateIdentifier_eq_ok.mp (by decide)
  have identified : (StrongId.fromValidated (composeIdentifier "own" record.port.value
      record.generations.ownership.advance.value) : PortOwnershipId).valid = true :=
    StrongId.valid_fromValidated
      (grammatical_composeIdentifier lead (by decide) (StrongId.grammatical port)
        record.generations.ownership.advance.bounded)
  simp only [OwnershipRequest.namesOwner, Bool.and_eq_true] at named
  simp only [AuthorityContext.valid, Bool.and_eq_true] at complete
  simp [PortOwnership.valid, grantedOwnership, identified, named.1.1, named.2, undelegated,
    complete.1.1.1, complete.1.1.2, complete.1.2, Generation.valid_advance]

theorem PortRecord.Formed.claimed_validate (formed : record.Formed)
    (named : request.namesOwner = true) (undelegated : request.delegates = false)
    (complete : request.envelope.authority.valid = true) :
    (record.claimed request).validate = .ok () ↔ record.Settled := by
  have granted := grantedOwnership_valid formed.port named undelegated complete
  have reason : validateText (text "OWNERSHIP_CLAIMED") maxNameLength = .ok () := by decide
  have owned : (record.claimed request).Formed :=
    { formed with ownership := granted, reason }
  rw [owned.validate_iff]
  exact and_iff_left request.owner.validateText

theorem PortRecord.Formed.claimPlan_validated (formed : record.Formed)
    (named : request.namesOwner = true) (undelegated : request.delegates = false)
    (complete : request.envelope.authority.valid = true) :
    validatePlan record (claimPlan record request) = .ok () ↔ record.Settled := by
  rw [← formed.claimed_validate named undelegated complete]
  cases validated : (record.claimed request).validate with
  | error error => simp [validatePlan, claimPlan, validated]
  | ok => simp [validatePlan, claimPlan, validated]

/-- A legal owner is granted a port that the caller does not hold and nobody holds exclusively. -/
theorem claimOwnership_build_eq (named : request.namesOwner = true)
    (undelegated : request.delegates = false)
    (unheld : record.ownership.any request.callerHolds = false)
    (shared : record.ownership.any PortOwnership.exclusive = false) {input : MutationBuildInput}
    (current : input.current = record) :
    (Mutation.claimOwnership request).build input = .ok (claimPlan record request) := by
  simp only [Mutation.build, buildClaim, grantPlan, current, unheld, shared, named, undelegated,
    rejectIf, Bool.false_eq_true, if_false, Bool.not_true, Bool.false_and, ok_bind]
  rfl

theorem grantedOwnership_callerHolds (undelegated : request.delegates = false)
    (granted : (grantedOwnership record request).valid = true) :
    request.callerHolds (grantedOwnership record request) = true := by
  simp only [OwnershipRequest.callerHolds, PortOwnership.heldBy, granted]
  simp [grantedOwnership, undelegated]

end Grants

section Pipeline

variable {runtime : Runtime} {impl : EngineImpl} {request : OwnershipRequest}
  {record : PortRecord} {answers : MutationAnswers}

theorem persistLockedState_isOk_iff {store : StoreAnswers} :
    (impl.persistLockedState runtime store).2.isOk = true ↔ impl.Persists runtime store := by
  unfold EngineImpl.persistLockedState EngineImpl.Persists
  cases mode : runtime.config.persistence with
  | manual => simp [Outcome.success, Outcome.isOk]
  | automatic =>
      cases path : runtime.config.persistencePath.isEmpty with
      | true => simp [Outcome.failure, Outcome.isOk]
      | false => simp

namespace EngineImpl.MayClaim

theorem gated (may : impl.MayClaim request record) :
    snapshotGates runtime.config (.claimOwnership request) record = .ok () := by
  have expects := may.expectsNothing
  simp only [AuthorityContext.expectsNothing, Bool.and_eq_true, Bool.not_eq_true'] at expects
  have capability : expectCapability (.claimOwnership request) record = .ok () := by
    simp [expectCapability, Mutation.authority, Mutation.envelope, expects.1.1.2]
  have configuration : expectConfiguration (.claimOwnership request) record = .ok () := by
    simp [expectConfiguration, needsConfigurationExpectation, Mutation.kind, Mutation.authority,
      Mutation.envelope, expects.1.2]
  have ownership : ownershipGate runtime.config (.claimOwnership request) record = .ok () := by
    simp [ownershipGate, Mutation.kind]
  simp only [snapshotGates, capability, configuration, ownership, ok_bind]

theorem build_eq (may : impl.MayClaim request record) {input : MutationBuildInput}
    (current : input.current = record) :
    (Mutation.claimOwnership request).build input = .ok (claimPlan record request) := by
  have unheld : record.ownership.any request.callerHolds = false := by
    rw [may.unowned, Option.any_none]
  have shared : record.ownership.any PortOwnership.exclusive = false := by
    rw [may.unowned, Option.any_none]
  exact claimOwnership_build_eq may.named may.undelegated unheld shared current

/-- The device and the standing of the record decide whether a claim is planned. -/
theorem planMutation_eq {answer : ProviderAnswer} (may : impl.MayClaim request record) :
    planMutation runtime (.claimOwnership request) answer impl =
      (deviceGate (.claimOwnership request) record (readContext impl record) >>= fun _ =>
        validatePlan record (claimPlan record request) >>= fun _ =>
          pure (record, stampPlan (.claimOwnership request) (claimPlan record request))) := by
  have expects := may.expectsNothing
  simp only [AuthorityContext.expectsNothing, Bool.and_eq_true, Bool.not_eq_true'] at expects
  have unneeded : evidenceFor runtime (.claimOwnership request) record answer = .ok {} := by
    simp [evidenceFor, needsConfigurationExpectation, Mutation.kind]
  rw [may.toAddresses.planMutation_eq expects.1.1.1 may.gated]
  simp only [preparePlan, unneeded, ok_bind, may.build_eq, Except.mapError, bind_assoc, pure_bind]

theorem deviceGate_iff (may : impl.MayClaim request record) :
    deviceGate (.claimOwnership request) record (readContext impl record) = .ok () ↔
      ∀ binding, impl.devices[record.parentDevice]? = some binding →
        binding.generation = record.generations.device := by
  have expects := may.expectsNothing
  simp only [AuthorityContext.expectsNothing, Bool.and_eq_true, Bool.not_eq_true'] at expects
  cases recorded : impl.devices[record.parentDevice]? with
  | none => simp [deviceGate, readContext, recorded]
  | some binding =>
      simp [deviceGate, readContext, recorded, toleratesReplacedDevice, Mutation.kind,
        Mutation.authority, Mutation.envelope, expects.2]

theorem validatePlan_iff (may : impl.MayClaim request record) (wellFormed : impl.WellFormed) :
    validatePlan record (claimPlan record request) = .ok () ↔ record.Settled :=
  (wellFormed.formed _ _ may.found).claimPlan_validated may.named may.undelegated
    (may.toAddresses.complete wellFormed)

variable (runtime) in
theorem planned_iff (may : impl.MayClaim request record) (wellFormed : impl.WellFormed)
    (answer : ProviderAnswer) :
    planMutation runtime (.claimOwnership request) answer impl =
        .ok (record, stampPlan (.claimOwnership request) (claimPlan record request)) ↔
      (∀ binding, impl.devices[record.parentDevice]? = some binding →
          binding.generation = record.generations.device) ∧ record.Settled := by
  rw [may.planMutation_eq, ← may.deviceGate_iff, ← may.validatePlan_iff wellFormed]
  simp only [bind_eq_ok, pure_eq_ok, and_true]
  constructor
  · intro given
    rcases given with ⟨_, gated, _, validated⟩
    exact ⟨gated, validated⟩
  · intro given
    rcases given with ⟨gated, validated⟩
    exact ⟨(), gated, (), validated⟩

variable (runtime) in
/-- A claim that is not planned is answered with a refusal. -/
theorem planned_or_refused (may : impl.MayClaim request record) (answer : ProviderAnswer) :
    planMutation runtime (.claimOwnership request) answer impl =
        .ok (record, stampPlan (.claimOwnership request) (claimPlan record request)) ∨
      ∃ reply, planMutation runtime (.claimOwnership request) answer impl = .error reply ∧
        reply.accepted = false := by
  rw [may.planMutation_eq]
  cases gated : deviceGate (.claimOwnership request) record (readContext impl record) with
  | error reply =>
      refine .inr ⟨reply, rfl, ?_⟩
      unfold deviceGate at gated
      repeat' split at gated
      all_goals cases gated
      · rfl
      · rfl
  | ok =>
      cases validated : validatePlan record (claimPlan record request) with
      | error reply =>
          refine .inr ⟨reply, rfl, ?_⟩
          unfold validatePlan at validated
          split at validated
          · cases validated
            rfl
          · cases validated
      | ok => exact .inl rfl

/-- A planned claim is accepted when it can be stored and the stored state can be written. -/
theorem stored_iff (may : impl.MayClaim request record) (wellFormed : impl.WellFormed)
    (running : impl.shuttingDown = false)
    (planned : planMutation runtime (.claimOwnership request) answers.provider impl =
      .ok (record, stampPlan (.claimOwnership request) (claimPlan record request))) :
    (claimOwnership runtime answers impl request).2.accepted = true ↔
      impl.generation.exhaustible = false ∧
        (impl.claimed request record).Persists runtime answers.store := by
  have decided : applyPlan runtime record
      (stampPlan (.claimOwnership request) (claimPlan record request)) answers =
        .commit (stampPlan (.claimOwnership request) (claimPlan record request)) record.applied
          false := by
    simp [applyPlan, stampPlan, claimPlan, PortRecord.claimed, PortRecord.reowned,
      PortRecord.advanceOwnershipGeneration]
  rw [claimOwnership, may.toAddresses.executeMutation_commit wellFormed running planned decided]
  cases full : impl.generation.exhaustible with
  | true =>
      simp [EngineImpl.commit, may.toAddresses.commitRecord_full planned decided full,
        Reply.accepted, MutationResult.accepted, MutationResult.rejected, Outcome.accepted,
        Outcome.failure, OutcomeCode.isAccepted]
  | false =>
      have stored := may.toAddresses.commitRecord_eq planned decided full
      rw [← persistLockedState_isOk_iff]
      simp only [EngineImpl.commit, stored, Reply.accepted, true_and]
      unfold EngineImpl.commitResult
      split
      · next written => exact iff_of_true rfl written
      · next unwritten =>
          refine iff_of_false ?_ unwritten
          simp [MutationResult.accepted, MutationResult.reporting, Outcome.accepted,
            Outcome.failure, OutcomeCode.isAccepted]

theorem accepted_iff (may : impl.MayClaim request record) (wellFormed : impl.WellFormed) :
    (claimOwnership runtime answers impl request).2.accepted = true ↔
      impl.LetsClaim runtime answers.store request record := by
  cases running : impl.shuttingDown with
  | true =>
      refine iff_of_false ?_ fun lets => ?_
      · simp [claimOwnership, executeMutation, admitMutation, running, Reply.reject,
          Reply.accepted, MutationResult.accepted, MutationResult.rejected, Outcome.accepted,
          Outcome.failure, OutcomeCode.isAccepted]
      · exact absurd lets.running (by simp [running])
  | false =>
      obtain planned | ⟨reply, unplanned, refused⟩ :=
        may.planned_or_refused runtime answers.provider
      · obtain ⟨device, settled⟩ := (may.planned_iff runtime wellFormed answers.provider).mp planned
        rw [may.stored_iff wellFormed running planned]
        constructor
        · intro given
          rcases given with ⟨room, persists⟩
          exact ⟨running, room, device, settled, persists⟩
        · intro lets
          exact ⟨lets.room, lets.persists⟩
      · refine iff_of_false ?_ fun lets => ?_
        · rw [claimOwnership, may.toAddresses.executeMutation_eq wellFormed running, unplanned]
          simp [refused]
        · have planned := (may.planned_iff runtime wellFormed answers.provider).mpr
            ⟨lets.device, lets.settled⟩
          rw [unplanned] at planned
          cases planned

end EngineImpl.MayClaim

end Pipeline

/--
In every reachable state, the claim of an unowned port by a live incarnation is
accepted exactly when its device was not replaced, no uncertain first
configuration took its standing, and the engine can store and write the claim.
-/
theorem claim_accepted_iff (runtime : Runtime) (operations : List Operation)
    {request : OwnershipRequest} {record : PortRecord} (answers : MutationAnswers)
    (may : (EngineImpl.after runtime operations).MayClaim request record) :
    (claimOwnership runtime answers (EngineImpl.after runtime operations) request).2.accepted =
        true ↔
      (EngineImpl.after runtime operations).LetsClaim runtime answers.store request record :=
  may.accepted_iff (EngineImpl.after_wellFormed runtime operations)

namespace FencedOwner

def port : PortId := "syn-sw1-p01"

def claim (boot : WorkerBootId) (attempt : MutationAttemptId) : OwnershipRequest :=
  Fixture.claimRequest (Fixture.envelope port "agent-a" boot attempt .first) "owner-a"

/-- The owner of a bound port is fenced, and a fresh incarnation takes its place. -/
def replacement : List Operation :=
  [ .fencePublisher "agent-a" "boot-a",
    .registerPublisher "agent-a" "boot-b" .first ]

def claimed : List Operation :=
  [ Fixture.bind port "bind-1",
    .registerPublisher "agent-a" "boot-a" .first,
    .mutate (.claimOwnership (claim "boot-a" "claim-1")) {} ]

def replaced : EngineImpl := EngineImpl.after Fixture.runtime (claimed ++ replacement)

/-- The device of the port is replaced before its owner is fenced. -/
def stranded : EngineImpl :=
  EngineImpl.after Fixture.runtime
    (claimed ++ .registerDevice Fixture.device Generation.first.next "registry" :: replacement)

def publisher : PublisherId := "agent-a"

/-- What a claim of the fresh incarnation needs to find in the tables. -/
def vacant (impl : EngineImpl) : Bool :=
  (impl.records[port]?).any (fun record =>
    record.lifecycle = .unconfigured && record.ownership = none &&
      record.lastMutation.attempt = ("claim-1" : MutationAttemptId)) &&
    (impl.publishers[publisher]?).any (fun found =>
      found.boot = ("boot-b" : WorkerBootId) && !found.fenced) &&
    impl.epoch = .first

theorem mayClaim_of_vacant {impl : EngineImpl} (free : vacant impl = true) :
    ∃ record, record.lifecycle = .unconfigured ∧
      impl.MayClaim (claim "boot-b" "claim-2") record := by
  simp only [vacant, Bool.and_eq_true, Option.any_eq_true, decide_eq_true_eq,
    Bool.not_eq_true'] at free
  obtain ⟨⟨⟨record, found, ⟨standing, unowned⟩, last⟩, entry, present, boot, unfenced⟩, epoch⟩ :=
    free
  refine ⟨record, standing, ⟨found, ?_, ⟨entry, present, boot, unfenced⟩, epoch.symm, rfl, ?_⟩,
    unowned, rfl, rfl, rfl⟩
  · rw [standing]
    decide
  · rw [last]
    decide

set_option maxRecDepth 100000 in
/-- While the device stays, the fresh incarnation claims the port of the fenced one. -/
theorem replacement_accepted :
    (claimOwnership Fixture.runtime {} replaced (claim "boot-b" "claim-2")).2.accepted = true := by
  have reached : vacant replaced = true ∧ replaced.generation.exhaustible = false ∧
      replaced.shuttingDown = false ∧
      ((replaced.records[port]?).all fun record =>
        (replaced.devices[record.parentDevice]?).all fun binding =>
          binding.generation = record.generations.device) = true := by
    decide +kernel
  obtain ⟨vacancy, room, running, device⟩ := reached
  obtain ⟨record, standing, may⟩ := mayClaim_of_vacant vacancy
  refine (claim_accepted_iff Fixture.runtime (claimed ++ replacement) {} may).mpr
    ⟨running, room, fun binding found => ?_, .inr (.inl standing), fun automatic => ?_⟩
  · have present : replaced.records[port]? = some record := may.found
    have recorded : replaced.devices[record.parentDevice]? = some binding := found
    simpa [present, recorded] using device
  · cases automatic

set_option maxRecDepth 100000 in
/-- A fence leaves the port of a replaced device unowned, and no replacement can claim it. -/
theorem replacement_refused :
    ∃ record, stranded.MayClaim (claim "boot-b" "claim-2") record ∧
      (claimOwnership Fixture.runtime {} stranded (claim "boot-b" "claim-2")).2.accepted =
        false := by
  have outcome : vacant stranded = true ∧
      (claimOwnership Fixture.runtime {} stranded (claim "boot-b" "claim-2")).2.accepted =
        false := by
    decide +kernel
  obtain ⟨vacancy, refused⟩ := outcome
  obtain ⟨record, _, may⟩ := mayClaim_of_vacant vacancy
  exact ⟨record, may, refused⟩

end FencedOwner

end PortFabric
