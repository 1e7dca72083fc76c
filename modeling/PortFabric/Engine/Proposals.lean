import PortFabric.Engine.MutationProperties

/-!
# Proposals

The shapes a plan can have, whatever mutation it was built for.
-/

set_option autoImplicit false

namespace PortFabric

open Checks

/-- The proposed record, and what the later phases do with it. -/
inductive Proposal (mutation : Mutation) (input : MutationBuildInput) (plan : MutationPlan) :
    Prop where
  | configured {request : ConfigureRequest} {configuration : PortConfiguration}
      (requested : mutation = .configure request)
      (unconfigured : input.current.lifecycle = .unconfigured)
      (generation : configuration.capabilityGeneration = input.capability.generation)
      (administrative : configuration.administrative =
        if request.configuration.administrative = .unknown then .enabled
        else request.configuration.administrative)
      (planned : plan = configurationPlan input (input.current.configured configuration)
        configuration)
  | replaced {committed configuration target : PortConfiguration} {reason : Text}
      (requested : mutation.kind = .reconfigure ∨ mutation.kind = .assignProfile)
      (present : input.current.configuration = some committed)
      (live : input.current.lifecycle.isLive = true)
      (generation : input.capability.present = true →
        configuration.capabilityGeneration = input.capability.generation)
      (administrative : configuration.administrative = committed.administrative)
      (planned : plan = configurationPlan input
        (input.current.reconfigured configuration reason []) target)
  | administered {request : AdministrativeRequest} {committed : PortConfiguration}
      (requested : mutation = .administrative request)
      (present : input.current.configuration = some committed)
      (live : input.current.lifecycle.isLive = true)
      (allowed : (evaluateTransition input.current.lifecycle
        (lifecycleTransitionFor request.op)).allowed = true)
      (unvalidated : plan.requiresCapabilityValidation = false)
      (next : plan.next = input.current.administered
        { committed with
          administrative := administrativeTarget request.op
          provenance := makeProvenance request.envelope .operator }
        (evaluateTransition input.current.lifecycle (lifecycleTransitionFor request.op)).result
        request.op)
  | rebound {request : CapabilityRequest}
      (requested : mutation = .bindCapabilities request)
      (unapplied : plan.requiresApply = false)
      (next : plan.next =
        (input.current.withEvidence request.binding).reexamined request.binding)
  | reconciled {request : ReconcileRequest} {committed configuration target : PortConfiguration}
      (requested : mutation = .reconcile request)
      (present : input.current.configuration = some committed)
      (generation : configuration.capabilityGeneration = input.capability.generation)
      (administrative : configuration.administrative = committed.administrative)
      (planned : plan = configurationPlan input
        (input.current.reconciled configuration request.detail) target)
  | fenced {lifecycle : PortLifecycle} {reason detail : Text} {retire : Bool}
      (requested : mutation.kind = if retire then .retire else .supersede)
      (unapplied : plan.requiresApply = false)
      (allowed : (evaluateTransition input.current.lifecycle
        (if retire then .retire else .supersede)).allowed = true)
      (result : lifecycle = (evaluateTransition input.current.lifecycle
        (if retire then .retire else .supersede)).result)
      (next : plan.next =
        let next := input.current.fenced lifecycle reason detail
        if retire then next.withoutOwnership else next)
  | reowned {ownership : Option PortOwnership} {reason detail : Text}
      (requested : mutation.kind = .claimOwnership ∨ mutation.kind = .transferOwnership ∨
        mutation.kind = .releaseOwnership)
      (unapplied : plan.requiresApply = false)
      (next : plan.next = input.current.reowned ownership reason detail)
  | evidenced {request : EvidenceRequest}
      (requested : mutation = .recordAppliedEvidence request)
      (unapplied : plan.requiresApply = false)
      (configured : input.current.configuration.isSome = true)
      (current : request.evidence.generation = input.current.generations.configuration)
      (next : plan.next = input.current.evidenced request.evidence)
  | observed {request : DriftRequest}
      (requested : mutation = .observeExternalState request)
      (unapplied : plan.requiresApply = false)
      (next : plan.next = input.current.drifted request.observed request.detail)

section Builders

variable {input : MutationBuildInput} {plan : MutationPlan}

theorem assignedProfile_administrative {request : ProfileRequest}
    {committed assigned : PortConfiguration}
    (changed : assignedProfile input request committed = .ok assigned) :
    assigned.administrative = committed.administrative := by
  unfold assignedProfile at changed
  split at changed
  · simp only [bind_eq_ok, pure_eq_ok] at changed
    obtain ⟨_, _, rfl⟩ := changed
    rfl
  · simp only [bind_eq_ok, pure_eq_ok] at changed
    obtain ⟨_, _, rfl⟩ := changed
    rfl

private theorem configure_proposal {request : ConfigureRequest}
    (built : buildConfigure input request = .ok plan) :
    Proposal (.configure request) input plan := by
  simp only [buildConfigure, bind_eq_ok, rejectIf_eq_ok, demand_eq_ok, rejectInvalid_eq_ok,
    pure_eq_ok] at built
  obtain ⟨_, unconfigured, _, _, _, _, _, _, _, _, _, _, _, _, _, _, _, _, rfl⟩ := built
  exact .configured rfl (by simpa using unconfigured) rfl rfl rfl

private theorem reconfigure_proposal {request : ReconfigureRequest}
    (built : buildReconfigure input request = .ok plan) :
    Proposal (.reconfigure request) input plan := by
  simp only [buildReconfigure, bind_eq_ok, rejectIf_eq_ok, demand_eq_ok, dereference_eq_ok,
    rejectInvalid_eq_ok, pure_eq_ok] at built
  obtain ⟨committed, present, _, live, _, _, _, _, _, _, _, same, _, _, _, _, _, _, rfl⟩ := built
  exact .replaced (.inl rfl) present (by simpa using live) (fun _ => rfl) (by simpa using same) rfl

private theorem assignProfile_proposal {request : ProfileRequest}
    (built : buildAssignProfile input request = .ok plan) :
    Proposal (.assignProfile request) input plan := by
  simp only [buildAssignProfile, bind_eq_ok, rejectIf_eq_ok, demand_eq_ok, dereference_eq_ok,
    rejectInvalid_eq_ok, pure_eq_ok] at built
  obtain ⟨committed, present, _, live, assigned, changed, _, _, _, _, _, _, rfl⟩ := built
  have administrative := assignedProfile_administrative changed
  refine .replaced (.inr rfl) present (by simpa using live) ?_ ?_ rfl
  · intro evident
    simp only [evident, if_true]
  · exact administrative

private theorem administrative_proposal {request : AdministrativeRequest}
    (built : buildAdministrative input request = .ok plan) :
    Proposal (.administrative request) input plan := by
  simp only [buildAdministrative, bind_eq_ok, rejectIf_eq_ok, demand_eq_ok, pure_eq_ok] at built
  obtain ⟨_, _, committed, present, _, live, _, allowed, _, _, rfl⟩ := built
  exact .administered rfl present (by simpa using live) (by simpa using allowed) rfl rfl

private theorem bindCapabilities_proposal {request : CapabilityRequest}
    (built : buildBindCapabilities input request = .ok plan) :
    Proposal (.bindCapabilities request) input plan := by
  simp only [buildBindCapabilities, bind_eq_ok, pure_eq_ok] at built
  obtain ⟨_, _, _, _, _, _, _, _, _, _, rfl⟩ := built
  exact .rebound rfl rfl rfl

private theorem reconcile_proposal {request : ReconcileRequest}
    (built : buildReconcile input request = .ok plan) :
    Proposal (.reconcile request) input plan := by
  simp only [buildReconcile, bind_eq_ok, rejectIf_eq_ok, demand_eq_ok, rejectInvalid_eq_ok,
    pure_eq_ok] at built
  obtain ⟨committed, present, _, _, _, _, _, _, _, _, _, _, rfl⟩ := built
  refine .reconciled rfl present ?_ ?_ rfl
  · rfl
  · rfl

private theorem fence_proposal {mutation : Mutation} {request : FenceRequest} {retire : Bool}
    (requested : mutation.kind = if retire then .retire else .supersede)
    (built : buildFence input request retire = .ok plan) : Proposal mutation input plan := by
  simp only [buildFence, bind_eq_ok, rejectIf_eq_ok, pure_eq_ok] at built
  obtain ⟨_, _, _, allowed, rfl⟩ := built
  exact .fenced requested rfl (by simpa using allowed) rfl rfl

private theorem grant_proposal {mutation : Mutation} {request : OwnershipRequest} {transfer : Bool}
    (requested : mutation.kind = .claimOwnership ∨ mutation.kind = .transferOwnership)
    (built : grantPlan input request transfer = .ok plan) : Proposal mutation input plan := by
  simp only [grantPlan, bind_eq_ok, pure_eq_ok] at built
  obtain ⟨_, _, _, _, rfl⟩ := built
  exact .reowned (requested.imp_right .inl) rfl rfl

theorem Mutation.build_proposal {mutation : Mutation} (built : mutation.build input = .ok plan) :
    Proposal mutation input plan := by
  cases mutation with
  | configure request =>
      exact configure_proposal built
  | reconfigure request => exact reconfigure_proposal built
  | administrative request => exact administrative_proposal built
  | assignProfile request => exact assignProfile_proposal built
  | bindCapabilities request => exact bindCapabilities_proposal built
  | reconcile request => exact reconcile_proposal built
  | supersede request => exact fence_proposal rfl built
  | retire request => exact fence_proposal rfl built
  | claimOwnership request => exact grant_proposal (.inl rfl) (buildClaim_ok built).2
  | transferOwnership request =>
      obtain ⟨_, _, _, granted⟩ := buildTransfer_ok built
      exact grant_proposal (.inr rfl) granted
  | releaseOwnership request =>
      simp only [build, buildRelease, bind_eq_ok, pure_eq_ok] at built
      obtain ⟨_, _, _, _, rfl⟩ := built
      exact .reowned (.inr (.inr rfl)) rfl rfl
  | recordAppliedEvidence request =>
      simp only [build, buildAppliedEvidence, bind_eq_ok, rejectIf_eq_ok, pure_eq_ok] at built
      obtain ⟨_, _, _, configured, _, current, _, _, rfl⟩ := built
      exact .evidenced rfl rfl (by simpa using configured) (by simpa using current) rfl
  | observeExternalState request =>
      simp only [build, buildDrift, bind_eq_ok, pure_eq_ok] at built
      obtain ⟨_, _, _, _, rfl⟩ := built
      exact .observed rfl rfl rfl

/-- The mutations that propose a configuration of their own. -/
def writesConfiguration : PortMutationKind → Bool
  | .configure | .reconfigure | .administrative | .assignProfile | .reconcile => true
  | _ => false

/-- What a mutation that proposes no configuration leaves as it was; it may fence the port. -/
structure PortRecord.Reported (current next : PortRecord) : Prop where
  configuration : next.configuration = current.configuration
  parentDevice : next.parentDevice = current.parentDevice
  device : next.generations.device = current.generations.device
  lifecycle : next.lifecycle.isLive = true → next.lifecycle = current.lifecycle

theorem PortRecord.Reported.live {current next : PortRecord} (reported : current.Reported next)
    (alive : next.lifecycle.isLive = true) : current.lifecycle.isLive = true :=
  reported.lifecycle alive ▸ alive

theorem Proposal.reported {mutation : Mutation} (proposed : Proposal mutation input plan)
    (reports : writesConfiguration mutation.kind = false) : input.current.Reported plan.next := by
  have dead {lifecycle other : PortLifecycle} (fenced : lifecycle.isLive = false)
      (live : lifecycle.isLive = true) : lifecycle = other := by
    rw [fenced] at live
    cases live
  cases proposed with
  | configured requested | administered requested | reconciled requested =>
      subst requested
      cases reports
  | replaced requested =>
      rcases requested with same | same
      · rw [same] at reports
        cases reports
      · rw [same] at reports
        cases reports
  | @rebound request _ _ next =>
      obtain ⟨_, _, _, _, _, same, judged⟩ :=
        (input.current.withEvidence request.binding).reexamined_eq request.binding
      rw [next, same]
      refine ⟨rfl, rfl, rfl, ?_⟩
      obtain ⟨fenced, _⟩ | ⟨kept, _⟩ := judged
      · exact dead (fenced ▸ rfl)
      · exact fun _ => kept
  | @fenced lifecycle reason detail retire _ _ allowed result next =>
      obtain ⟨_, _, same⟩ := (input.current.fenced lifecycle reason detail).disowned_eq retire
      rw [next]
      dsimp only
      rw [same]
      refine ⟨rfl, rfl, rfl, dead (result ▸ fence_not_live ?_ allowed)⟩
      cases retire
      · exact .inr (.inl rfl)
      · exact .inl rfl
  | reowned _ _ next =>
      rw [next]
      exact ⟨rfl, rfl, rfl, fun _ => rfl⟩
  | @evidenced request _ _ _ _ next =>
      obtain ⟨_, _, _, _, _, _, _, same, judged⟩ := input.current.evidenced_eq request.evidence
      rw [next, same]
      refine ⟨rfl, rfl, rfl, ?_⟩
      obtain kept | ⟨_, fenced⟩ := judged
      · exact fun _ => kept
      · exact dead (fenced ▸ rfl)
  | @observed request _ _ next =>
      obtain ⟨_, _, _, _, _, same, judged⟩ :=
        input.current.drifted_eq request.observed request.detail
      rw [next, same]
      refine ⟨rfl, rfl, rfl, ?_⟩
      obtain kept | ⟨_, fenced⟩ | ⟨allowed, conflicted⟩ := judged
      · exact fun _ => kept
      · exact dead (fenced ▸ rfl)
      · exact dead (conflicted ▸ fence_not_live (.inr (.inr rfl)) allowed)

/-- What is applied to the device is no report about it. -/
theorem Proposal.applied_kind {mutation : Mutation} (proposed : Proposal mutation input plan)
    (required : plan.requiresApply = true) :
    mutation.kind ≠ .bindCapabilities ∧ mutation.kind ≠ .recordAppliedEvidence ∧
      mutation.kind ≠ .observeExternalState := by
  have unapplied (applied : plan.requiresApply = false) : False := by
    rw [required] at applied
    cases applied
  cases proposed with
  | configured requested _ _ _ _ =>
      subst requested
      exact ⟨nofun, nofun, nofun⟩
  | replaced requested _ _ _ _ _ =>
      rcases requested with same | same
      · rw [same]
        exact ⟨nofun, nofun, nofun⟩
      · rw [same]
        exact ⟨nofun, nofun, nofun⟩
  | administered requested _ _ _ _ _ =>
      subst requested
      exact ⟨nofun, nofun, nofun⟩
  | reconciled requested _ _ _ _ =>
      subst requested
      exact ⟨nofun, nofun, nofun⟩
  | rebound _ applied _ => exact (unapplied applied).elim
  | fenced _ applied _ _ _ => exact (unapplied applied).elim
  | reowned _ applied _ => exact (unapplied applied).elim
  | evidenced _ applied _ _ _ => exact (unapplied applied).elim
  | observed _ applied _ => exact (unapplied applied).elim

end Builders

section Settlement

variable {runtime : Runtime} {impl : EngineImpl} {mutation : Mutation} {answers : MutationAnswers}
  {snapshot final : PortRecord} {plan : MutationPlan}

/-- Evidence of an adapter phase that came to a decision about the configuration it applied. -/
structure DecidedEvidence (proposal : MutationPlan) (applied : AppliedEvidence) : Prop where
  verified : applied.verified = true → applied.outcome = .verified
  known : applied.outcome ≠ .outcomeUnknown
  generation : applied.generation = proposal.next.generations.configuration

/-- The plan is applied, which settles its evidence under the next evidence generation. -/
def CountsEvidence (runtime : Runtime) (proposal : MutationPlan) : Prop :=
  proposal.requiresApply = true ∧ runtime.config.adapterPolicy ≠ .desiredStateOnly

instance (runtime : Runtime) (proposal : MutationPlan) :
    Decidable (CountsEvidence runtime proposal) :=
  inferInstanceAs (Decidable (_ ∧ _))

/-- The adapter phase leaves the evidence alone, or settles it for the plan it applied. -/
structure EvidenceSettlement (runtime : Runtime) (proposal : MutationPlan)
    (applied : AppliedEvidence) (drift : DriftState) (evidence : EvidenceGeneration) : Prop where
  unapplied : proposal.requiresApply = false →
    applied = proposal.next.applied ∧ drift = proposal.next.drift
  decided : proposal.requiresApply = true → DecidedEvidence proposal applied
  counted : evidence =
    if CountsEvidence runtime proposal then proposal.next.generations.evidence.advance
    else proposal.next.generations.evidence

private theorem settlePlan_settlement {proposal settledPlan : MutationPlan}
    {given applied : AppliedEvidence} {settled : Bool} (counts : CountsEvidence runtime proposal)
    (answered : DecidedEvidence proposal given)
    (decided : settlePlan proposal given = .commit settledPlan applied settled) :
    ∃ drift evidence,
      EngineImpl.committedRecord settledPlan applied settled =
          proposal.next.settledWith
            (EngineImpl.committedRecord settledPlan applied settled).applied drift evidence ∧
        EvidenceSettlement runtime proposal
          (EngineImpl.committedRecord settledPlan applied settled).applied drift evidence := by
  simp only [settlePlan, ApplyDecision.commit.injEq] at decided
  obtain ⟨rfl, rfl, rfl⟩ := decided
  refine ⟨_, _, rfl, ?_, fun _ => ⟨answered.verified, answered.known, answered.generation⟩, ?_⟩
  · intro unapplied
    rw [counts.1] at unapplied
    cases unapplied
  · rw [if_pos counts]

theorem applyPlan_settlement {proposal settledPlan : MutationPlan} {applied : AppliedEvidence}
    {settled : Bool}
    (decided : applyPlan runtime snapshot proposal answers =
      .commit settledPlan applied settled) :
    ∃ drift evidence,
      EngineImpl.committedRecord settledPlan applied settled =
          proposal.next.settledWith
            (EngineImpl.committedRecord settledPlan applied settled).applied drift evidence ∧
        EvidenceSettlement runtime proposal
          (EngineImpl.committedRecord settledPlan applied settled).applied drift evidence := by
  have unverified (given : AppliedEvidence) (flag : given.verified = false)
      (known : given.outcome ≠ .outcomeUnknown)
      (generation : given.generation = proposal.next.generations.configuration) :
      DecidedEvidence proposal given := by
    refine ⟨fun verified => ?_, known, generation⟩
    rw [flag] at verified
    cases verified
  unfold applyPlan at decided
  split at decided
  · next unapplied =>
      cases decided
      rw [Bool.not_eq_true'] at unapplied
      refine ⟨_, _, rfl, fun _ => ⟨rfl, rfl⟩, fun required => ?_, ?_⟩
      · rw [unapplied] at required
        cases required
      · simp [CountsEvidence, unapplied]
  · next applies =>
      have required : proposal.requiresApply = true := by simpa using applies
      split at decided
      · next desired =>
          cases decided
          have undecided := unverified
            (EngineImpl.committedRecord proposal
              { generation := proposal.next.generations.configuration,
                evidenceGeneration := proposal.next.applied.evidenceGeneration,
                source := "desired-state-only" } true).applied rfl nofun rfl
          refine ⟨_, _, rfl, fun unapplied => ?_, fun _ => undecided, ?_⟩
          · rw [required] at unapplied
            cases unapplied
          · simp [CountsEvidence, desired]
      · next consulted =>
          have counts : CountsEvidence runtime proposal := ⟨required, consulted⟩
          split at decided
          · exact settlePlan_settlement counts (unverified _ rfl (by simp) rfl) decided
          · split at decided
            · split at decided
              · unfold verifyApplied at decided
                split at decided
                · exact settlePlan_settlement counts ⟨fun _ => rfl, by simp, rfl⟩ decided
                · cases decided
                · cases decided
                · exact settlePlan_settlement counts (unverified _ rfl (by simp) rfl) decided
              · exact settlePlan_settlement counts (unverified _ rfl (by simp) rfl) decided
            · exact settlePlan_settlement counts (unverified _ rfl (by simp) rfl) decided
            · cases decided
            · cases decided

/-- The evidence a plan is validated against is the bound one, or a fresh reading. -/
theorem evidenceFor_ok {answer : ProviderAnswer} {capability : CapabilityBinding}
    (consulted : evidenceFor runtime mutation snapshot answer = .ok capability)
    (needed : needsConfigurationExpectation mutation.kind = true) :
    capability.present = true ∧
      (snapshot.capability.present = true → capability = snapshot.capability) := by
  simp only [evidenceFor, needed, if_true] at consulted
  split at consulted
  · cases consulted
  · next found resolved =>
      cases consulted
      unfold resolveCapabilities at resolved
      split at resolved
      · next bound =>
          cases resolved
          exact ⟨bound, fun _ => rfl⟩
      · next unbound =>
          refine ⟨?_, fun bound => absurd bound unbound⟩
          split at resolved
          · cases resolved
          · split at resolved
            · cases resolved
            · split at resolved
              · cases resolved
              · next present =>
                  split at resolved
                  · cases resolved
                  · cases resolved
                    simpa using present

/-- How a mutation comes to its commit: evidence, plan, validation and adapter phase. -/
theorem Commits.derivation (commits : Commits runtime mutation answers impl snapshot plan final) :
    ∃ (capability : CapabilityBinding) (proposal settledPlan : MutationPlan)
      (applied : AppliedEvidence) (settled : Bool),
      mutation.build
        { current := snapshot, topology := impl.topology,
          parentDeviceGeneration := (readContext impl snapshot).deviceGeneration, capability,
          profiles := impl.profiles } = .ok proposal ∧
      evidenceFor runtime mutation snapshot answers.provider = .ok capability ∧
      validatePlan snapshot proposal = .ok () ∧
      applyPlan runtime snapshot (stampPlan mutation proposal) answers =
        .commit settledPlan applied settled ∧
      final = EngineImpl.committedRecord settledPlan applied settled := by
  obtain ⟨_, _, _, prepared⟩ := planMutation_ok commits.planned
  simp only [preparePlan, bind_eq_ok, mapError_eq_ok, pure_eq_ok] at prepared
  obtain ⟨capability, consulted, proposal, built, _, validated, rfl⟩ := prepared
  obtain ⟨_, _, _, _, decided, _, rfl⟩ := commits.stored
  exact ⟨capability, proposal, _, _, _, built, consulted, validated, decided, rfl⟩

theorem Commits.settlement (commits : Commits runtime mutation answers impl snapshot plan final) :
    ∃ (capability : CapabilityBinding) (proposal : MutationPlan) (applied : AppliedEvidence)
      (drift : DriftState) (evidence : EvidenceGeneration),
      Proposal mutation
        { current := snapshot, topology := impl.topology,
          parentDeviceGeneration := (readContext impl snapshot).deviceGeneration, capability,
          profiles := impl.profiles } proposal ∧
      evidenceFor runtime mutation snapshot answers.provider = .ok capability ∧
      validatePlan snapshot proposal = .ok () ∧
      final = (stampPlan mutation proposal).next.settledWith applied drift evidence ∧
      EvidenceSettlement runtime proposal applied drift evidence := by
  obtain ⟨capability, proposal, _, _, _, built, consulted, validated, decided, rfl⟩ :=
    commits.derivation
  obtain ⟨drift, evidence, same, settlement⟩ := applyPlan_settlement decided
  refine ⟨capability, proposal, _, drift, evidence, Mutation.build_proposal built, consulted,
    validated, same, ?_⟩
  have decided (required : proposal.requiresApply = true) : DecidedEvidence proposal _ :=
    have answered := settlement.decided required
    ⟨answered.verified, answered.known, answered.generation⟩
  exact ⟨settlement.unapplied, decided, settlement.counted⟩

end Settlement

end PortFabric
