import PortFabric.Engine.AuthorityProperties
import PortFabric.Engine.Interleaving
import PortFabric.Library.Refusals

/-!
# Replies

Which replies say that the attempt of a request is committed. No builder, no gate
and no adapter gives one: it takes a commit, or a record that remembers the
attempt already.
-/

set_option autoImplicit false

namespace PortFabric

open Checks

/-- The code says that the attempt of the request is the last one of its port. -/
def OutcomeCode.isCommitted (code : OutcomeCode) : Bool :=
  code = .ok || code = .idempotent

theorem OutcomeCode.uncommitted_of_refused {code : OutcomeCode}
    (refused : code.isAccepted = false) : code.isCommitted = false := by
  cases code with
  | ok | idempotent => cases refused
  | _ => rfl

def Reply.isCommitted : Reply → Bool
  | result answer => answer.outcome.code.isCommitted
  | undefinedBehaviour => false

section Builders

variable {input : MutationBuildInput}

/-- No builder reports a commit. -/
def PlanFailure.Uncommitted : PlanFailure → Prop
  | rejected code _ => code.isCommitted = false
  | undefinedBehaviour => True

private theorem rejectIf_refuses {condition : Bool} {code : OutcomeCode} {detail : Text}
    (uncommitted : code.isCommitted = false) :
    Refuses PlanFailure.Uncommitted (rejectIf condition code detail) :=
  .ite (.error uncommitted) (.ok ())

private theorem demand_refuses {α : Type} {value : Option α} {code : OutcomeCode} {detail : Text}
    (uncommitted : code.isCommitted = false) :
    Refuses PlanFailure.Uncommitted (demand value code detail) := by
  cases value with
  | none => exact .error uncommitted
  | some found => exact .ok found

private theorem rejectInvalid_refuses {check : Except Text Unit} {code : OutcomeCode}
    (uncommitted : code.isCommitted = false) :
    Refuses PlanFailure.Uncommitted (rejectInvalid check code) := by
  cases check with
  | error error => exact .error uncommitted
  | ok => exact .ok ()

private theorem dereference_refuses {α : Type} {value : Option α} :
    Refuses PlanFailure.Uncommitted (dereference value) := by
  cases value with
  | none => exact .error trivial
  | some found => exact .ok found

private theorem fencedState_uncommitted (lifecycle : PortLifecycle) :
    (rejectionForFencedState lifecycle).isCommitted = false := by
  cases lifecycle <;> rfl

private theorem assignedProfile_refuses (request : ProfileRequest)
    (committed : PortConfiguration) :
    Refuses PlanFailure.Uncommitted (assignedProfile input request committed) :=
  .ite (.bind (rejectIf_refuses rfl) fun _ => .ok _) (.bind (demand_refuses rfl) fun _ => .ok _)

private theorem fence_refuses (request : FenceRequest) (retire : Bool) :
    Refuses PlanFailure.Uncommitted (buildFence input request retire) :=
  .bind (rejectIf_refuses rfl) fun _ =>
    .bind (rejectIf_refuses (fencedState_uncommitted _)) fun _ => .ok _

private theorem grantPlan_refuses (request : OwnershipRequest) (transfer : Bool) :
    Refuses PlanFailure.Uncommitted (grantPlan input request transfer) :=
  .bind (rejectIf_refuses rfl) fun _ => .bind (rejectIf_refuses rfl) fun _ => .ok _

theorem Mutation.build_refuses (mutation : Mutation) :
    Refuses PlanFailure.Uncommitted (mutation.build input) := by
  cases mutation with
  | configure request =>
      exact .bind (rejectIf_refuses (fencedState_uncommitted _)) fun _ =>
        .bind (demand_refuses rfl) fun _ => .bind (rejectIf_refuses rfl) fun _ =>
        .bind (rejectIf_refuses rfl) fun _ => .bind (rejectIf_refuses rfl) fun _ =>
        .bind (rejectIf_refuses rfl) fun _ => .bind (rejectIf_refuses rfl) fun _ =>
        .bind (rejectIf_refuses rfl) fun _ => .bind (rejectInvalid_refuses rfl) fun _ => .ok _
  | reconfigure request =>
      exact .bind (demand_refuses rfl) fun _ =>
        .bind (rejectIf_refuses (fencedState_uncommitted _)) fun _ =>
        .bind (rejectIf_refuses rfl) fun _ => .bind (rejectIf_refuses rfl) fun _ =>
        .bind dereference_refuses fun _ => .bind (rejectIf_refuses rfl) fun _ =>
        .bind (rejectIf_refuses rfl) fun _ => .bind (rejectInvalid_refuses rfl) fun _ =>
        .bind (rejectIf_refuses rfl) fun _ => .ok _
  | administrative request =>
      exact .bind (rejectIf_refuses rfl) fun _ => .bind (demand_refuses rfl) fun _ =>
        .bind (rejectIf_refuses (fencedState_uncommitted _)) fun _ =>
        .bind (rejectIf_refuses rfl) fun _ => .bind (rejectIf_refuses rfl) fun _ => .ok _
  | assignProfile request =>
      exact .bind (demand_refuses rfl) fun committed =>
        .bind (rejectIf_refuses (fencedState_uncommitted _)) fun _ =>
        .bind (assignedProfile_refuses request committed) fun _ =>
        .bind dereference_refuses fun _ => .bind (rejectInvalid_refuses rfl) fun _ =>
        .bind (rejectIf_refuses rfl) fun _ => .ok _
  | bindCapabilities request =>
      exact .bind (rejectIf_refuses rfl) fun _ => .bind (rejectInvalid_refuses rfl) fun _ =>
        .bind (rejectIf_refuses rfl) fun _ => .bind (rejectIf_refuses rfl) fun _ =>
        .bind (rejectIf_refuses rfl) fun _ => .ok _
  | reconcile request =>
      exact .bind (demand_refuses rfl) fun _ => .bind (demand_refuses rfl) fun _ =>
        .bind (rejectIf_refuses rfl) fun _ => .bind (rejectIf_refuses rfl) fun _ =>
        .bind (rejectInvalid_refuses rfl) fun _ => .bind (rejectIf_refuses rfl) fun _ => .ok _
  | supersede request => exact fence_refuses request false
  | retire request => exact fence_refuses request true
  | claimOwnership request =>
      exact .bind (rejectIf_refuses rfl) fun _ => .bind (rejectIf_refuses rfl) fun _ =>
        .bind (rejectIf_refuses rfl) fun _ => grantPlan_refuses request false
  | transferOwnership request =>
      exact .bind (demand_refuses rfl) fun _ => .bind (rejectIf_refuses rfl) fun _ =>
        .bind (rejectIf_refuses rfl) fun _ => grantPlan_refuses request true
  | releaseOwnership request =>
      exact .bind (demand_refuses rfl) fun _ => .bind (rejectIf_refuses rfl) fun _ => .ok _
  | recordAppliedEvidence request =>
      exact .bind (rejectIf_refuses rfl) fun _ => .bind (rejectIf_refuses rfl) fun _ =>
        .bind (rejectIf_refuses rfl) fun _ => .bind (rejectIf_refuses rfl) fun _ => .ok _
  | observeExternalState request =>
      exact .bind (rejectIf_refuses rfl) fun _ => .bind (rejectIf_refuses rfl) fun _ => .ok _

end Builders

section Phases

variable {runtime : Runtime} {impl : EngineImpl} {mutation : Mutation} {snapshot : PortRecord}

/-- The reply does not report a commit. -/
def Reply.Uncommitted (reply : Reply) : Prop := reply.isCommitted = false

private theorem reject_refuses {α : Type} {code : OutcomeCode} {message : Text}
    (uncommitted : code.isCommitted = false) :
    Refuses Reply.Uncommitted (.error (.reject code message) : Except Reply α) :=
  .error uncommitted

theorem authorise_refuses (runtime : Runtime) (impl : EngineImpl) (mutation : Mutation) :
    Refuses Reply.Uncommitted (authorise runtime impl mutation).2 := by
  unfold authorise
  dsimp only
  split
  · exact .ok ()
  · next refused =>
      exact .error (OutcomeCode.uncommitted_of_refused (rejects_of_not_ok refused))

/-- Only a record that remembers the attempt answers in place of a commit. -/
theorem observe_committed {reply : Reply} (refused : observe impl mutation = .error reply)
    (committed : reply.isCommitted = true) :
    ∃ record, impl.records[mutation.port]? = some record ∧
      record.lastMutation.attempt = mutation.attempt := by
  unfold observe at refused
  split at refused
  · cases refused
    cases committed
  · next record found =>
      refine ⟨record, found, ?_⟩
      split at refused
      · next answer decided =>
          cases refused
          unfold replayDecision at decided
          split at decided
          · cases decided
            cases committed
          · split at decided
            · cases decided
              cases committed
            · split at decided
              · next answering => exact answering.2
              · cases decided
      · cases refused

private theorem detailed_refuses {α : Type} {outcome : Outcome} {key value : Text}
    (uncommitted : outcome.code.isCommitted = false) :
    Refuses Reply.Uncommitted
      (.error (.result { outcome := outcome.withDetail key value }) : Except Reply α) := by
  refine .error ?_
  rw [Reply.Uncommitted, Reply.isCommitted, Outcome.withDetail_code]
  exact uncommitted

private theorem twice_refuses {α : Type} {outcome : Outcome} {key value other told : Text}
    (uncommitted : outcome.code.isCommitted = false) :
    Refuses Reply.Uncommitted
      (.error (.result { outcome := (outcome.withDetail key value).withDetail other told }) :
        Except Reply α) :=
  detailed_refuses (by rw [Outcome.withDetail_code]; exact uncommitted)

theorem expectTopology_uncommitted :
    Refuses Reply.Uncommitted (expectTopology impl mutation) :=
  .ite (reject_refuses rfl) (.ok ())

theorem snapshotGates_uncommitted (config : EngineConfig) :
    Refuses Reply.Uncommitted (snapshotGates config mutation snapshot) := by
  refine .bind (.ite (reject_refuses rfl) (.ok ())) fun _ =>
    .bind (.ite (twice_refuses rfl) (.ok ())) fun _ => .ite (.ok ()) ?_
  cases snapshot.ownership with
  | none => exact .ite (reject_refuses rfl) (.ok ())
  | some ownership =>
      exact .ite (reject_refuses rfl) (.ite (reject_refuses rfl)
        (.ite (detailed_refuses (by rw [Outcome.withDetail_code, Outcome.withDetail_code]; rfl))
          (.ok ())))

theorem deviceGate_uncommitted {context : MutationContext} :
    Refuses Reply.Uncommitted (deviceGate mutation snapshot context) := by
  unfold deviceGate
  split
  · exact .ok ()
  · exact .ite (.ok ()) (.ite (twice_refuses rfl) (.ite (twice_refuses rfl) (.ok ())))

/-- No check against the evidence reports a commit. -/
theorem validateAgainstCapabilities_uncommitted (configuration : PortConfiguration)
    (binding : CapabilityBinding) :
    Refuses (fun rejection : CapabilityRejection => rejection.code.isCommitted = false)
      (validateAgainstCapabilities configuration binding) := by
  refine .ite (.error rfl) ?_
  split
  · exact .error rfl
  · refine .ite (.error rfl) ?_
    split
    · exact .error rfl
    · -- The remaining checks each refuse with a code of their own.
      repeat' first
        | exact .ok ()
        | refine .refuseIf rfl ?_
        | refine .require rfl ?_

theorem validatePlan_uncommitted {plan : MutationPlan} :
    Refuses Reply.Uncommitted (validatePlan snapshot plan) := by
  unfold validatePlan
  split
  · exact reject_refuses rfl
  · refine .ite (.ok ()) ?_
    split
    · exact reject_refuses rfl
    · split
      · exact .ok ()
      · next rejection refused =>
          refine .error ?_
          rw [Reply.Uncommitted, Reply.isCommitted, Outcome.withDetail_code]
          exact validateAgainstCapabilities_uncommitted _ _ rejection refused

theorem evidenceFor_uncommitted {answer : ProviderAnswer} :
    Refuses Reply.Uncommitted (evidenceFor runtime mutation snapshot answer) := by
  refine .ite ?_ (.ok _)
  cases resolved : resolveCapabilities runtime snapshot answer with
  | ok binding => exact .ok binding
  | error outcome =>
      refine .error ?_
      unfold resolveCapabilities at resolved
      repeat' split at resolved
      all_goals cases resolved
      all_goals rfl

theorem planned_uncommitted {α : Type} {planning : Planning α}
    (refuses : Refuses PlanFailure.Uncommitted planning) :
    Refuses Reply.Uncommitted (planning.mapError (planReply snapshot)) := by
  cases planning with
  | ok plan => exact .ok plan
  | error failure =>
      refine .error ?_
      cases failure with
      | undefinedBehaviour => rfl
      | rejected code detail =>
          have uncommitted : code.isCommitted = false := refuses _ rfl
          simp only [planReply]
          split
          · rfl
          · exact uncommitted

theorem preparePlan_uncommitted {profiles : ProfileRegistry} {context : MutationContext}
    {answer : ProviderAnswer} :
    Refuses Reply.Uncommitted
      (preparePlan runtime profiles mutation snapshot context answer) :=
  .bind evidenceFor_uncommitted fun _ =>
    .bind (planned_uncommitted mutation.build_refuses) fun _ =>
    .bind validatePlan_uncommitted fun _ => .ok _

/-- An adapter that fails, or that leaves the outcome open, reports no commit. -/
theorem applyPlan_uncommitted {plan : MutationPlan} {answers : MutationAnswers} :
    match applyPlan runtime snapshot plan answers with
    | .commit _ _ _ => True
    | .reject reply => reply.isCommitted = false
    | .uncertain _ detail code reply =>
        (reply.getD (.rejected code detail)).outcome.code.isCommitted = false := by
  split
  · trivial
  · next reply decided =>
      unfold applyPlan at decided
      repeat' split at decided
      all_goals first
        | cases decided
        | (unfold verifyApplied at decided; split at decided <;> cases decided)
      rw [Reply.isCommitted, Outcome.withDetail_code, Outcome.withDetail_code]
      rfl
  · next detail code reply decided =>
      rcases applyPlan_uncertain_code decided with same | same <;> rw [same] <;> rfl

end Phases

end PortFabric
