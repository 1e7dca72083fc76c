import PortFabric.Engine.AuthorityProperties
import PortFabric.Engine.Fixture

/-!
# Authority safety

With required ownership, a mutation changes a record or reaches the adapter only
under a living incarnation that is entitled to the port.
-/

set_option autoImplicit false

namespace PortFabric

open Checks

/-- The mutation calls the apply of the adapter. -/
def Applies (runtime : Runtime) (mutation : Mutation) (answers : MutationAnswers)
    (impl : EngineImpl) : Prop :=
  ∃ snapshot plan, Planned runtime mutation answers impl snapshot plan ∧
    (adapterStatus runtime plan answers).isSome = true

/-- Why a caller may change a port with this record. -/
inductive Entitled (mutation : Mutation) (snapshot : PortRecord) : Prop where
  | owner {ownership : PortOwnership} (owned : snapshot.ownership = some ownership)
      (holds : ownership.heldBy mutation.authority.publisher mutation.authority.boot
        mutation.authority.epoch = true)
  | claim (claims : mutation.kind = .claimOwnership)
      (free : ∀ ownership, snapshot.ownership = some ownership → ownership.exclusive = false)
  | unconfigured (unowned : snapshot.ownership = none) (bare : snapshot.configuration = none)

/-- What a mutation that touches the port has shown. -/
structure Authorised (runtime : Runtime) (mutation : Mutation) (impl : EngineImpl) : Prop where
  epoch : mutation.authority.epoch = impl.epoch
  alive : (impl.authorised runtime mutation).Alive mutation.authority.publisher
    mutation.authority.boot
  entitled : ∃ snapshot, impl.records[mutation.port]? = some snapshot ∧ Entitled mutation snapshot

section Gates

variable {runtime : Runtime} {mutation : Mutation} {answers : MutationAnswers} {impl : EngineImpl}
  {snapshot : PortRecord} {plan : MutationPlan}

theorem snapshotGates_ownership {config : EngineConfig}
    (passed : snapshotGates config mutation snapshot = .ok ()) :
    ownershipGate config mutation snapshot = .ok () := by
  simp only [snapshotGates, bind_eq_ok] at passed
  obtain ⟨_, _, _, _, gated⟩ := passed
  exact gated

/-- What the ownership gate lets through; transfers and releases are left to their builders. -/
theorem ownershipGate_ok {config : EngineConfig} (required : config.requireOwnership = true)
    (passed : ownershipGate config mutation snapshot = .ok ()) :
    mutation.kind = .claimOwnership ∨
      (snapshot.ownership = none ∧ snapshot.configuration = none) ∨
      ∃ ownership, snapshot.ownership = some ownership ∧
        (mutation.kind = .transferOwnership ∨ mutation.kind = .releaseOwnership ∨
          ownership.heldBy mutation.authority.publisher mutation.authority.boot
            mutation.authority.epoch = true) := by
  unfold ownershipGate at passed
  split at passed
  · next exempt =>
      simp only [required, Bool.not_true, Bool.false_or, decide_eq_true_eq] at exempt
      exact .inl exempt
  split at passed
  · next unowned =>
      split at passed
      · cases passed
      · next bare => exact .inr (.inl ⟨unowned, by simpa using bare⟩)
  · next ownership owned =>
      refine .inr (.inr ⟨ownership, owned, ?_⟩)
      split at passed
      · cases passed
      split at passed
      · cases passed
      split at passed
      · cases passed
      · next held =>
          by_contra other
          simp only [not_or] at other
          exact held ⟨other.1, other.2.1, by simpa using other.2.2⟩

theorem Planned.entitled (planned : Planned runtime mutation answers impl snapshot plan)
    (required : runtime.config.requireOwnership = true) : Entitled mutation snapshot := by
  obtain ⟨_, gated, _, prepared⟩ := planMutation_ok planned.planned
  obtain ⟨capability, proposal, built, _, _⟩ := preparePlan_ok prepared
  obtain claims | ⟨unowned, bare⟩ | ⟨ownership, owned, transfers | releases | holds⟩ :=
    ownershipGate_ok required (snapshotGates_ownership gated)
  · cases mutation with
    | claimOwnership request =>
        refine .claim rfl fun ownership owned => ?_
        simp only [Mutation.build, buildClaim, bind_eq_ok, rejectIf_eq_ok, owned] at built
        obtain ⟨_, _, _, shared, _⟩ := built
        simpa using shared
    | _ => cases claims
  · exact .unconfigured unowned bare
  · cases mutation with
    | transferOwnership request =>
        obtain ⟨_, found, holds, _⟩ := buildTransfer_ok built
        exact .owner found holds
    | _ => cases transfers
  · cases mutation with
    | releaseOwnership request =>
        obtain ⟨_, found, holds, _⟩ := buildRelease_ok built
        exact .owner found holds
    | _ => cases releases
  · exact .owner owned holds

end Gates

/--
With required ownership, a mutation that changes the records or calls the
adapter is made under the current epoch, by a living incarnation that owns the
port, claims a port it can claim, or finds the port unowned and unconfigured.
-/
theorem touches_only_authorised {runtime : Runtime} {mutation : Mutation}
    {answers : MutationAnswers} {impl : EngineImpl}
    (required : runtime.config.requireOwnership = true)
    (touches : (executeMutation runtime mutation answers impl).1.records[mutation.port]? ≠
        impl.records[mutation.port]? ∨ Applies runtime mutation answers impl) :
    Authorised runtime mutation impl := by
  have planned : ∃ snapshot plan, Planned runtime mutation answers impl snapshot plan := by
    rcases touches with changed | ⟨snapshot, plan, planned, _⟩
    · have effect := executeMutation_records runtime mutation answers impl
      generalize (executeMutation runtime mutation answers impl).1.records = after
        at effect changed
      cases effect with
      | unrecorded _ _ => exact absurd rfl changed
      | committed commits => exact ⟨_, _, commits.toPlanned⟩
      | doubted doubts => exact ⟨_, _, doubts.toPlanned⟩
    · exact ⟨snapshot, plan, planned⟩
  obtain ⟨snapshot, plan, planned⟩ := planned
  exact ⟨(EngineImpl.checkAuthority_ok planned.authorised).2.1,
    EngineImpl.alive_authorised planned.authorised,
    snapshot, planned.snapshot_found, planned.entitled required⟩

namespace AuthorisedClaim

def port : PortId := "syn-sw1-p01"

def claim : Mutation :=
  Fixture.claim (Fixture.envelope port "agent-a" "boot-a" "claim-1" .first) "owner-a"

def bound : EngineImpl :=
  (EngineImpl.initial Fixture.runtime.config).perform Fixture.runtime (Fixture.bind port "bind-1")

set_option maxRecDepth 100000 in
theorem claim_authorised : Authorised Fixture.runtime claim bound := by
  have changed : (executeMutation Fixture.runtime claim {} bound).1.records[port]? ≠
      bound.records[port]? := by
    decide +kernel
  exact touches_only_authorised rfl (.inl changed)

end AuthorisedClaim

end PortFabric
