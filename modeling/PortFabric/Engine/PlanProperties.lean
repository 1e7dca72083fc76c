import PortFabric.Engine.Plan

/-!
# Properties of mutation plans

What each builder proposes when it does not reject, and what no builder changes.
-/

set_option autoImplicit false

namespace PortFabric

open Checks

@[simp] theorem reject_ne_ok {α : Type} {code : OutcomeCode} {detail : Text} {value : α} :
    (reject code detail : Planning α) ≠ .ok value := by
  simp [reject]

@[simp] theorem rejectIf_eq_ok {condition : Bool} {code : OutcomeCode} {detail : Text}
    {done : Unit} :
    rejectIf condition code detail = .ok done ↔ condition = false := by
  cases condition <;> simp [rejectIf]

@[simp] theorem demand_eq_ok {α : Type} {value : Option α} {code : OutcomeCode} {detail : Text}
    {found : α} : demand value code detail = .ok found ↔ value = some found := by
  cases value <;> simp [demand]

@[simp] theorem rejectInvalid_eq_ok {check : Except Text Unit} {code : OutcomeCode} {done : Unit} :
    rejectInvalid check code = .ok done ↔ check = .ok () := by
  cases check <;> simp [rejectInvalid]

@[simp] theorem dereference_eq_ok {α : Type} {value : Option α} {found : α} :
    dereference value = .ok found ↔ value = some found := by
  cases value <;> simp [dereference]

section Builders

variable {input : MutationBuildInput} {plan : MutationPlan}

theorem buildConfigure_ok {request : ConfigureRequest}
    (built : buildConfigure input request = .ok plan) :
    ∃ configuration : PortConfiguration,
      input.current.lifecycle = .unconfigured ∧
      input.parentDeviceGeneration = some configuration.deviceGeneration ∧
      configuration.topologyGeneration = input.topology ∧
      configuration.capabilityGeneration = input.capability.generation ∧
      configuration.validate = .ok () ∧
      plan = configurationPlan input (input.current.configured configuration) configuration := by
  simp only [buildConfigure, bind_eq_ok, rejectIf_eq_ok, demand_eq_ok, rejectInvalid_eq_ok,
    pure_eq_ok] at built
  obtain ⟨_, unconfigured, _, device, _, _, _, _, _, _, _, _, _, _, _, _, _, valid, rfl⟩ := built
  exact ⟨_, by simpa using unconfigured, device, rfl, rfl, valid, rfl⟩

theorem buildReconfigure_ok {request : ReconfigureRequest}
    (built : buildReconfigure input request = .ok plan) :
    ∃ committed configuration : PortConfiguration,
      input.current.configuration = some committed ∧
      input.current.lifecycle.isLive = true ∧
      input.parentDeviceGeneration = some configuration.deviceGeneration ∧
      configuration.topologyGeneration = input.topology ∧
      configuration.capabilityGeneration = input.capability.generation ∧
      configuration.administrative = committed.administrative ∧
      plan.expected = .capture input.current ∧
      plan.next = input.current.reconfigured configuration "RECONFIGURED" [] := by
  simp only [buildReconfigure, bind_eq_ok, rejectIf_eq_ok, demand_eq_ok, dereference_eq_ok,
    rejectInvalid_eq_ok, pure_eq_ok] at built
  obtain ⟨committed, present, _, live, _, _, _, _, _, device, _, same, _, _, _, _, _, _, rfl⟩ :=
    built
  exact ⟨committed, _, present, by simpa using live, device, rfl, rfl,
    by simpa using same, rfl, rfl⟩

theorem buildAdministrative_ok {request : AdministrativeRequest}
    (built : buildAdministrative input request = .ok plan) :
    ∃ committed configuration : PortConfiguration,
      input.current.configuration = some committed ∧
      input.current.lifecycle.isLive = true ∧
      (evaluateTransition input.current.lifecycle
        (lifecycleTransitionFor request.op)).allowed = true ∧
      configuration =
        { committed with
          administrative := administrativeTarget request.op
          provenance := makeProvenance request.envelope .operator } ∧
      plan.expected = .capture input.current ∧
      plan.next = input.current.administered configuration
        (evaluateTransition input.current.lifecycle (lifecycleTransitionFor request.op)).result
        request.op := by
  simp only [buildAdministrative, bind_eq_ok, rejectIf_eq_ok, demand_eq_ok, pure_eq_ok] at built
  obtain ⟨_, _, committed, present, _, live, _, allowed, _, _, rfl⟩ := built
  exact ⟨committed, _, present, by simpa using live, by simpa using allowed, rfl, rfl, rfl⟩

theorem buildAssignProfile_ok {request : ProfileRequest}
    (built : buildAssignProfile input request = .ok plan) :
    ∃ committed assigned configuration : PortConfiguration,
      input.current.configuration = some committed ∧
      input.current.lifecycle.isLive = true ∧
      assignedProfile input request committed = .ok assigned ∧
      input.parentDeviceGeneration = some configuration.deviceGeneration ∧
      plan.expected = .capture input.current ∧
      (∃ reason, plan.next = input.current.reconfigured configuration reason []) ∧
      configuration.administrative = assigned.administrative := by
  simp only [buildAssignProfile, bind_eq_ok, rejectIf_eq_ok, demand_eq_ok, dereference_eq_ok,
    rejectInvalid_eq_ok, pure_eq_ok] at built
  obtain ⟨committed, present, _, live, assigned, changed, _, device, _, _, _, _, rfl⟩ := built
  exact ⟨committed, assigned, _, present, by simpa using live, changed, device, rfl, ⟨_, rfl⟩, rfl⟩

theorem buildBindCapabilities_ok {request : CapabilityRequest}
    (built : buildBindCapabilities input request = .ok plan) :
    request.binding.present = true ∧ request.binding.capabilities.validate = .ok () ∧
      plan.expected = .capture input.current ∧
      plan.next = (input.current.withEvidence request.binding).reexamined request.binding := by
  simp only [buildBindCapabilities, bind_eq_ok, rejectIf_eq_ok, rejectInvalid_eq_ok,
    pure_eq_ok] at built
  obtain ⟨_, complete, _, valid, _, _, _, _, _, _, rfl⟩ := built
  simp only [Bool.or_eq_false_iff, Bool.not_eq_false'] at complete
  exact ⟨complete.1.1, valid, rfl, rfl⟩

theorem buildReconcile_ok {request : ReconcileRequest}
    (built : buildReconcile input request = .ok plan) :
    ∃ committed configuration : PortConfiguration,
      input.current.configuration = some committed ∧
      input.parentDeviceGeneration = some configuration.deviceGeneration ∧
      plan.expected = .capture input.current ∧
      plan.next = input.current.reconciled configuration request.detail ∧
      configuration.topologyGeneration = input.topology ∧
      configuration.capabilityGeneration = input.capability.generation ∧
      configuration.administrative = committed.administrative := by
  simp only [buildReconcile, bind_eq_ok, rejectIf_eq_ok, demand_eq_ok, rejectInvalid_eq_ok,
    pure_eq_ok] at built
  obtain ⟨committed, present, _, device, _, _, _, _, _, _, _, _, rfl⟩ := built
  exact ⟨committed, _, present, device, rfl, rfl, rfl, rfl, rfl⟩

theorem buildFence_ok {request : FenceRequest} {retire : Bool}
    (built : buildFence input request retire = .ok plan) :
    ∃ (lifecycle : PortLifecycle) (reason : Text),
      (evaluateTransition input.current.lifecycle (if retire then .retire else .supersede)).allowed
        = true ∧
      lifecycle = (evaluateTransition input.current.lifecycle
        (if retire then .retire else .supersede)).result ∧
      plan.expected = .capture input.current ∧
      plan.next =
        let next := input.current.fenced lifecycle reason request.detail
        if retire then next.withoutOwnership else next := by
  simp only [buildFence, bind_eq_ok, rejectIf_eq_ok, pure_eq_ok] at built
  obtain ⟨_, _, _, allowed, rfl⟩ := built
  exact ⟨_, _, by simpa using allowed, rfl, rfl, rfl⟩

theorem grantPlan_ok {request : OwnershipRequest} {transfer : Bool}
    (built : grantPlan input request transfer = .ok plan) :
    (request.delegates = true → transfer = true ∧ request.delegatePublisher.valid = true ∧
      request.delegateBoot.valid = true) ∧
      plan.expected = .capture input.current ∧
      ∃ reason, plan.next = input.current.reowned (some (grantedOwnership input.current request))
        reason (grantedOwnership input.current request).owner.value := by
  simp only [grantPlan, bind_eq_ok, rejectIf_eq_ok, pure_eq_ok] at built
  obtain ⟨_, complete, _, transferOnly, rfl⟩ := built
  refine ⟨?_, rfl, _, rfl⟩
  intro delegates
  simp only [delegates, Bool.true_and, Bool.or_eq_false_iff, Bool.not_eq_false']
    at complete transferOnly
  exact ⟨transferOnly, complete.1, complete.2⟩

theorem buildClaim_ok {request : OwnershipRequest}
    (built : buildClaim input request = .ok plan) :
    request.namesOwner = true ∧ grantPlan input request false = .ok plan := by
  simp only [buildClaim, bind_eq_ok, rejectIf_eq_ok] at built
  obtain ⟨_, _, _, _, _, named, granted⟩ := built
  exact ⟨by simpa using named, granted⟩

theorem buildTransfer_ok {request : OwnershipRequest}
    (built : buildTransfer input request = .ok plan) :
    ∃ ownership, input.current.ownership = some ownership ∧
      request.callerHolds ownership = true ∧ grantPlan input request true = .ok plan := by
  simp only [buildTransfer, bind_eq_ok, rejectIf_eq_ok, demand_eq_ok] at built
  obtain ⟨ownership, owned, _, holds, _, _, granted⟩ := built
  exact ⟨ownership, owned, by simpa using holds, granted⟩

theorem buildRelease_ok {request : OwnershipRequest}
    (built : buildRelease input request = .ok plan) :
    ∃ ownership, input.current.ownership = some ownership ∧
      request.callerHolds ownership = true ∧ plan.expected = .capture input.current ∧
      plan.next = input.current.reowned none "OWNERSHIP_RELEASED"
        request.envelope.provenanceSource := by
  simp only [buildRelease, bind_eq_ok, rejectIf_eq_ok, demand_eq_ok, pure_eq_ok] at built
  obtain ⟨ownership, owned, _, holds, rfl⟩ := built
  exact ⟨ownership, owned, by simpa using holds, rfl, rfl⟩

theorem buildAppliedEvidence_ok {request : EvidenceRequest}
    (built : buildAppliedEvidence input request = .ok plan) :
    request.evidence.outcome.isValid = true ∧ input.current.configuration.isSome = true ∧
      request.evidence.generation = input.current.generations.configuration ∧
      plan.expected = .capture input.current ∧
      plan.next = input.current.evidenced request.evidence := by
  simp only [buildAppliedEvidence, bind_eq_ok, rejectIf_eq_ok, pure_eq_ok] at built
  obtain ⟨_, legal, _, present, _, current, _, _, rfl⟩ := built
  exact ⟨by simpa using legal, by simpa using present, by simpa using current, rfl, rfl⟩

theorem buildDrift_ok {request : DriftRequest}
    (built : buildDrift input request = .ok plan) :
    request.observed.isValid = true ∧ plan.expected = .capture input.current ∧
      plan.next = input.current.drifted request.observed request.detail := by
  simp only [buildDrift, bind_eq_ok, rejectIf_eq_ok, pure_eq_ok] at built
  obtain ⟨_, legal, _, _, rfl⟩ := built
  exact ⟨by simpa using legal, rfl, rfl⟩

theorem Mutation.build_expected {mutation : Mutation} (built : mutation.build input = .ok plan) :
    plan.expected = .capture input.current := by
  cases mutation with
  | configure request =>
      obtain ⟨_, _, _, _, _, _, rfl⟩ := buildConfigure_ok built
      rfl
  | reconfigure request =>
      obtain ⟨_, _, _, _, _, _, _, _, expected, _⟩ := buildReconfigure_ok built
      exact expected
  | administrative request =>
      obtain ⟨_, _, _, _, _, _, expected, _⟩ := buildAdministrative_ok built
      exact expected
  | assignProfile request =>
      obtain ⟨_, _, _, _, _, _, _, expected, _⟩ := buildAssignProfile_ok built
      exact expected
  | bindCapabilities request => exact (buildBindCapabilities_ok built).2.2.1
  | reconcile request =>
      obtain ⟨_, _, _, _, expected, _⟩ := buildReconcile_ok built
      exact expected
  | supersede request =>
      obtain ⟨_, _, _, _, expected, _⟩ := buildFence_ok built
      exact expected
  | retire request =>
      obtain ⟨_, _, _, _, expected, _⟩ := buildFence_ok built
      exact expected
  | claimOwnership request => exact (grantPlan_ok (buildClaim_ok built).2).2.1
  | transferOwnership request =>
      obtain ⟨_, _, _, granted⟩ := buildTransfer_ok built
      exact (grantPlan_ok granted).2.1
  | releaseOwnership request =>
      obtain ⟨_, _, _, expected, _⟩ := buildRelease_ok built
      exact expected
  | recordAppliedEvidence request => exact (buildAppliedEvidence_ok built).2.2.2.1
  | observeExternalState request => exact (buildDrift_ok built).2.1

theorem Mutation.build_requiresApply {mutation : Mutation}
    (built : mutation.build input = .ok plan) (required : plan.requiresApply = true) :
    input.current.lifecycle = .unconfigured ∨ input.current.configuration.isSome = true := by
  cases mutation with
  | configure request =>
      obtain ⟨_, unconfigured, _⟩ := buildConfigure_ok built
      exact .inl unconfigured
  | reconfigure request =>
      obtain ⟨_, _, present, _⟩ := buildReconfigure_ok built
      exact .inr (by rw [present]; rfl)
  | administrative request =>
      obtain ⟨_, _, present, _⟩ := buildAdministrative_ok built
      exact .inr (by rw [present]; rfl)
  | assignProfile request =>
      obtain ⟨_, _, _, present, _⟩ := buildAssignProfile_ok built
      exact .inr (by rw [present]; rfl)
  | bindCapabilities request =>
      simp only [build, buildBindCapabilities, bind_eq_ok, pure_eq_ok] at built
      obtain ⟨_, _, _, _, _, _, _, _, _, _, rfl⟩ := built
      cases required
  | reconcile request =>
      obtain ⟨_, _, present, _⟩ := buildReconcile_ok built
      exact .inr (by rw [present]; rfl)
  | supersede request | retire request =>
      simp only [build, buildFence, bind_eq_ok, pure_eq_ok] at built
      obtain ⟨_, _, _, _, rfl⟩ := built
      cases required
  | claimOwnership request =>
      have granted := (buildClaim_ok built).2
      simp only [grantPlan, bind_eq_ok, pure_eq_ok] at granted
      obtain ⟨_, _, _, _, rfl⟩ := granted
      cases required
  | transferOwnership request =>
      obtain ⟨_, _, _, granted⟩ := buildTransfer_ok built
      simp only [grantPlan, bind_eq_ok, pure_eq_ok] at granted
      obtain ⟨_, _, _, _, rfl⟩ := granted
      cases required
  | releaseOwnership request =>
      simp only [build, buildRelease, bind_eq_ok, pure_eq_ok] at built
      obtain ⟨_, _, _, _, rfl⟩ := built
      cases required
  | recordAppliedEvidence request =>
      simp only [build, buildAppliedEvidence, bind_eq_ok, pure_eq_ok] at built
      obtain ⟨_, _, _, _, _, _, _, _, rfl⟩ := built
      cases required
  | observeExternalState request =>
      simp only [build, buildDrift, bind_eq_ok, pure_eq_ok] at built
      obtain ⟨_, _, _, _, rfl⟩ := built
      cases required

end Builders

namespace PortRecord

variable (record : PortRecord)

/-- Retirement touches the ownership only, and any other fence not even that. -/
theorem disowned_eq (retire : Bool) :
    ∃ ownership generation,
      (if retire then record.withoutOwnership else record) =
        { record with
          ownership, generations := { record.generations with ownership := generation } } := by
  unfold withoutOwnership
  split
  · split
    · exact ⟨_, _, rfl⟩
    · exact ⟨_, _, rfl⟩
  · exact ⟨_, _, rfl⟩

/-- Fresh evidence that rejects the configuration fences the record. -/
theorem reexamined_eq (binding : CapabilityBinding) :
    ∃ lifecycle generation drift reason detail,
      record.reexamined binding =
        { record with
          lifecycle, drift
          generations := { record.generations with lifecycle := generation }
          statusReason := reason
          statusDetail := detail } ∧
      (lifecycle = .revalidationRequired ∧
          (∃ configuration, record.configuration = some configuration ∧
            validateAgainstCapabilities configuration binding ≠ .ok ()) ∨
        lifecycle = record.lifecycle ∧
          ∀ configuration, record.configuration = some configuration →
            validateAgainstCapabilities configuration binding = .ok ()) := by
  unfold reexamined
  split
  · next unconfigured =>
      refine ⟨_, _, _, _, _, rfl, .inr ⟨rfl, fun configuration configured => ?_⟩⟩
      rw [unconfigured] at configured
      cases configured
  · next configuration configured =>
      split
      · next examined =>
          refine ⟨_, _, _, _, _, rfl, .inr ⟨rfl, fun other again => ?_⟩⟩
          cases configured.symm.trans again
          exact examined
      · next rejection examined =>
          exact ⟨_, _, _, _, _, rfl, .inl ⟨rfl, configuration, configured, by simp [examined]⟩⟩

/-- Applied evidence fences a live record, or leaves the lifecycle alone. -/
theorem evidenced_eq (evidence : AppliedEvidence) :
    ∃ lifecycle lifecycleGeneration evidenceGeneration applied drift reason detail,
      record.evidenced evidence =
        { record with
          lifecycle, applied, drift
          generations :=
            { record.generations with
              lifecycle := lifecycleGeneration, evidence := evidenceGeneration }
          statusReason := reason
          statusDetail := detail } ∧
      (lifecycle = record.lifecycle ∨
        record.lifecycle.isLive = true ∧ lifecycle = .revalidationRequired) := by
  unfold evidenced judged
  dsimp only
  split
  · exact ⟨_, _, _, _, _, _, _, rfl, .inl rfl⟩
  · exact ⟨_, _, _, _, _, _, _, rfl, .inl rfl⟩
  · split
    · next live => exact ⟨_, _, _, _, _, _, _, rfl, .inr ⟨live, rfl⟩⟩
    · exact ⟨_, _, _, _, _, _, _, rfl, .inl rfl⟩
  · exact ⟨_, _, _, _, _, _, _, rfl, .inl rfl⟩
  · exact ⟨_, _, _, _, _, _, _, rfl, .inl rfl⟩

/-- Drift fences a live record, records a conflict, or leaves the lifecycle alone. -/
theorem drifted_eq (observed : DriftState) (detail : Text) :
    ∃ lifecycle generation applied drift reason,
      record.drifted observed detail =
        { record with
          lifecycle, applied, drift
          generations := { record.generations with lifecycle := generation }
          statusReason := reason
          statusDetail := detail } ∧
      (lifecycle = record.lifecycle ∨
        (record.lifecycle.isLive = true ∧ lifecycle = .revalidationRequired) ∨
        ((evaluateTransition record.lifecycle .conflict).allowed = true ∧
          lifecycle = (evaluateTransition record.lifecycle .conflict).result)) := by
  unfold drifted PortRecord.observed
  split
  · split
    · next live => exact ⟨_, _, _, _, _, rfl, .inr (.inl ⟨live, rfl⟩)⟩
    · exact ⟨_, _, _, _, _, rfl, .inl rfl⟩
  · dsimp only
    split
    · next allowed => exact ⟨_, _, _, _, _, rfl, .inr (.inr ⟨allowed, rfl⟩)⟩
    · exact ⟨_, _, _, _, _, rfl, .inl rfl⟩
  · exact ⟨_, _, _, _, _, rfl, .inl rfl⟩
  · exact ⟨_, _, _, _, _, rfl, .inl rfl⟩

theorem evidenced_applied (evidence : AppliedEvidence) :
    ∃ evidenceGeneration,
      (record.evidenced evidence).applied = { evidence with evidenceGeneration } := by
  refine ⟨record.generations.evidence.advance, ?_⟩
  unfold evidenced judged
  dsimp only
  split
  · rfl
  · rfl
  · split
    · rfl
    · rfl
  · rfl
  · rfl

theorem evidenced_generation (evidence : AppliedEvidence) :
    (record.evidenced evidence).generations.evidence = record.generations.evidence.advance := by
  unfold evidenced judged
  dsimp only
  split
  · rfl
  · rfl
  · split
    · rfl
    · rfl
  · rfl
  · rfl

/-- Only an observation in sync touches the evidence. -/
theorem drifted_applied (observed : DriftState) (detail : Text) :
    (record.drifted observed detail).applied =
      if observed = .inSync then { record.applied with verified := true }
      else record.applied := by
  cases observed with
  | inSync => rfl
  | revalidationRequired =>
      simp only [drifted, PortRecord.observed]
      split
      · rfl
      · rfl
  | conflicted =>
      simp only [drifted, PortRecord.observed]
      split
      · rfl
      · rfl
  | unknown => rfl
  | drifted => rfl
  | illegal raw => rfl

/-- Evidence of an unknown outcome leaves no port live. -/
theorem evidenced_not_live {evidence : AppliedEvidence}
    (unknown : evidence.outcome = .outcomeUnknown) :
    (record.evidenced evidence).lifecycle.isLive = false := by
  rw [evidenced, unknown, judged]
  dsimp only
  split
  · rfl
  · next fenced => exact Bool.eq_false_iff.mpr fenced

end PortRecord

section Ownership

variable {input : MutationBuildInput} {plan : MutationPlan}

/-- What a plan does to the ownership of the record and to its counter. -/
inductive OwnershipChange (mutation : Mutation) (current next : PortRecord) : Prop where
  | kept (ownership : next.ownership = current.ownership)
      (counter : next.generations.ownership = current.generations.ownership)
  | ended (ownership : next.ownership = none)
      (counter : next.generations.ownership = current.generations.ownership.advance)
  | claimed {request : OwnershipRequest} (requested : mutation = .claimOwnership request)
      (own : request.delegates = false)
      (ownership : next.ownership = some (grantedOwnership current request))
      (counter : next.generations.ownership = current.generations.ownership.advance)
  | transferred {request : OwnershipRequest} (requested : mutation = .transferOwnership request)
      (ownership : next.ownership = some (grantedOwnership current request))
      (counter : next.generations.ownership = current.generations.ownership.advance)

/-- A plan keeps the ownership, or ends or grants it under the next counter. -/
theorem Mutation.build_ownership {mutation : Mutation} (built : mutation.build input = .ok plan) :
    OwnershipChange mutation input.current plan.next := by
  cases mutation with
  | configure request =>
      obtain ⟨_, _, _, _, _, _, rfl⟩ := buildConfigure_ok built
      exact .kept rfl rfl
  | reconfigure request =>
      obtain ⟨_, _, _, _, _, _, _, _, _, next⟩ := buildReconfigure_ok built
      rw [next]
      exact .kept rfl rfl
  | administrative request =>
      obtain ⟨_, _, _, _, _, _, _, next⟩ := buildAdministrative_ok built
      rw [next]
      exact .kept rfl rfl
  | assignProfile request =>
      obtain ⟨_, _, _, _, _, _, _, _, ⟨_, next⟩, _⟩ := buildAssignProfile_ok built
      rw [next]
      exact .kept rfl rfl
  | bindCapabilities request =>
      obtain ⟨_, _, _, next⟩ := buildBindCapabilities_ok built
      obtain ⟨_, _, _, _, _, same, _⟩ :=
        (input.current.withEvidence request.binding).reexamined_eq request.binding
      rw [next, same]
      exact .kept rfl rfl
  | reconcile request =>
      obtain ⟨_, _, _, _, _, next, _⟩ := buildReconcile_ok built
      rw [next]
      exact .kept rfl rfl
  | supersede request =>
      obtain ⟨_, _, _, _, _, next⟩ := buildFence_ok built
      rw [next]
      exact .kept rfl rfl
  | retire request =>
      obtain ⟨_, _, _, _, _, next⟩ := buildFence_ok built
      rw [next]
      simp only [ite_true, PortRecord.withoutOwnership]
      split
      · exact .kept rfl rfl
      · exact .ended rfl rfl
  | claimOwnership request =>
      obtain ⟨undelegated, _, _, next⟩ := grantPlan_ok (buildClaim_ok built).2
      rw [next]
      refine .claimed rfl ?_ rfl rfl
      by_contra delegates
      simpa using (undelegated (by simpa using delegates)).1
  | transferOwnership request =>
      obtain ⟨_, _, _, granted⟩ := buildTransfer_ok built
      obtain ⟨_, _, _, next⟩ := grantPlan_ok granted
      rw [next]
      exact .transferred rfl rfl rfl
  | releaseOwnership request =>
      obtain ⟨_, _, _, _, next⟩ := buildRelease_ok built
      rw [next]
      exact .ended rfl rfl
  | recordAppliedEvidence request =>
      obtain ⟨_, _, _, _, next⟩ := buildAppliedEvidence_ok built
      obtain ⟨_, _, _, _, _, _, _, same, _⟩ := input.current.evidenced_eq request.evidence
      rw [next, same]
      exact .kept rfl rfl
  | observeExternalState request =>
      obtain ⟨_, _, next⟩ := buildDrift_ok built
      obtain ⟨_, _, _, _, _, same, _⟩ := input.current.drifted_eq request.observed request.detail
      rw [next, same]
      exact .kept rfl rfl

end Ownership

end PortFabric
