import PortFabric.Engine.CommitProperties
import PortFabric.Engine.Mutation

/-!
# Properties of the mutation pipeline

What each phase guarantees when it lets a mutation through, and what one whole
mutation does to the engine: nothing, one commit or one uncertain record.
-/

set_option autoImplicit false

namespace PortFabric

open Checks

section Authority

variable {runtime : Runtime} {impl : EngineImpl} {authority : AuthorityContext}

/-- An accepted incarnation: the context is complete and current, and the table agrees. -/
theorem EngineImpl.checkAuthority_ok
    (accepted : (impl.checkAuthority runtime authority).2.isOk = true) :
    authority.valid = true ∧ authority.epoch = impl.epoch ∧
      ((∃ found, impl.publishers[authority.publisher]? = some found ∧
          found.boot = authority.boot ∧ found.fenced = false ∧
          (impl.checkAuthority runtime authority).1 = impl) ∨
        (impl.publishers[authority.publisher]? = none ∧
          runtime.config.publisherRegistration ≠ .explicit ∧
          impl.publishers.size < maxPublishers ∧
          (impl.checkAuthority runtime authority).1 =
            { impl with
              publishers := impl.publishers.insert authority.publisher
                { publisher := authority.publisher, boot := authority.boot,
                  epoch := authority.epoch } })) := by
  unfold EngineImpl.checkAuthority at accepted ⊢
  split at accepted
  · simp [Outcome.failure] at accepted
  · next complete =>
      have valid : authority.valid = true := by simpa using complete
      split at accepted
      · simp [Outcome.failure] at accepted
      · next current =>
          have same : authority.epoch = impl.epoch := by simpa using current
          simp only [valid, same, Bool.not_true, Bool.false_eq_true, ite_false, ne_eq,
            not_true_eq_false, true_and]
          split at accepted
          · next absent =>
              split at accepted
              · simp [Outcome.failure] at accepted
              · next automatic =>
                  split at accepted
                  · simp [Outcome.failure] at accepted
                  · next room =>
                      have below : impl.publishers.size < maxPublishers := Nat.not_le.mp room
                      simp [absent, automatic, room, below]
          · next found present =>
              split at accepted
              · simp [Outcome.failure] at accepted
              · next boot =>
                  split at accepted
                  · simp [Outcome.failure] at accepted
                  · next unfenced =>
                      have same : found.boot = authority.boot := by simpa using boot
                      simp [present, same, unfenced]

theorem EngineImpl.checkAuthority_eq (runtime : Runtime) (impl : EngineImpl)
    (authority : AuthorityContext) :
    (impl.checkAuthority runtime authority).1 = impl ∨
      (impl.checkAuthority runtime authority).2.isOk = true := by
  unfold EngineImpl.checkAuthority
  split
  · exact .inl rfl
  · split
    · exact .inl rfl
    · split
      · split
        · exact .inl rfl
        · split
          · exact .inl rfl
          · exact .inr rfl
      · split
        · exact .inl rfl
        · split
          · exact .inl rfl
          · exact .inl rfl

theorem EngineImpl.checkAuthority_frame (runtime : Runtime) (impl : EngineImpl)
    (authority : AuthorityContext) :
    ∃ publishers, (impl.checkAuthority runtime authority).1 = { impl with publishers } := by
  rcases EngineImpl.checkAuthority_eq runtime impl authority with same | accepted
  · exact ⟨impl.publishers, same⟩
  · obtain ⟨_, _, ⟨_, _, _, _, same⟩ | ⟨_, _, _, registered⟩⟩ :=
      EngineImpl.checkAuthority_ok accepted
    · exact ⟨impl.publishers, same⟩
    · exact ⟨_, registered⟩

end Authority

section Phases

variable {runtime : Runtime} {impl : EngineImpl} {mutation : Mutation} {snapshot : PortRecord}

/-- A snapshot is the current record, which is not retired and does not answer the attempt. -/
theorem observe_ok (observed : observe impl mutation = .ok snapshot) :
    impl.records[mutation.port]? = some snapshot ∧ snapshot.lifecycle ≠ .retired ∧
      ¬(snapshot.lastMutation.valid = true ∧
        snapshot.lastMutation.attempt = mutation.attempt) := by
  unfold observe at observed
  split at observed
  · cases observed
  · next found present =>
      split at observed
      · cases observed
      · next decided =>
          cases observed
          unfold replayDecision at decided
          split at decided
          · cases decided
          · next ordinary =>
              split at decided
              · cases decided
              · next alive =>
                  split at decided
                  · split at decided <;> cases decided
                  · next fresh =>
                      refine ⟨present, ?_, fresh⟩
                      intro retired
                      by_cases retire : mutation.kind = .retire
                      · exact alive ⟨retired, retire⟩
                      · exact ordinary ⟨retired, retire⟩

theorem deviceGate_ok {context : MutationContext} {deviceGeneration : DeviceGeneration}
    (passed : deviceGate mutation snapshot context = .ok ())
    (recorded : context.deviceGeneration = some deviceGeneration)
    (strict : toleratesReplacedDevice mutation.kind = false) :
    deviceGeneration = snapshot.generations.device := by
  simp only [deviceGate, recorded, strict, Bool.false_eq_true, ite_false] at passed
  split at passed
  · cases passed
  · split at passed
    · cases passed
    · next same => simpa using same

theorem preparePlan_ok {profiles : ProfileRegistry} {context : MutationContext}
    {answer : ProviderAnswer} {plan : MutationPlan}
    (prepared : preparePlan runtime profiles mutation snapshot context answer = .ok plan) :
    ∃ capability proposal,
      mutation.build
        { current := snapshot, topology := context.topology,
          parentDeviceGeneration := context.deviceGeneration, capability, profiles } =
          .ok proposal ∧
      proposal.next.validate = .ok () ∧
      plan = stampPlan mutation proposal := by
  simp only [preparePlan, bind_eq_ok, mapError_eq_ok, pure_eq_ok] at prepared
  obtain ⟨capability, _, proposal, built, _, validated, rfl⟩ := prepared
  refine ⟨capability, proposal, built, ?_, rfl⟩
  unfold validatePlan at validated
  split at validated
  · cases validated
  · assumption

theorem planMutation_ok {answer : ProviderAnswer} {plan : MutationPlan}
    (planned : planMutation runtime mutation answer impl = .ok (snapshot, plan)) :
    observe impl mutation = .ok snapshot ∧
      snapshotGates runtime.config mutation snapshot = .ok () ∧
      deviceGate mutation snapshot (readContext impl snapshot) = .ok () ∧
      preparePlan runtime impl.profiles mutation snapshot (readContext impl snapshot) answer =
        .ok plan := by
  simp only [planMutation, bind_eq_ok, pure_eq_ok, Prod.mk.injEq] at planned
  obtain ⟨_, observed, _, _, _, gated, _, bound, _, prepared, rfl, rfl⟩ := planned
  exact ⟨observed, gated, bound, prepared⟩

theorem planMutation_publishers {answer : ProviderAnswer}
    {publishers : Std.ExtTreeMap PublisherId PublisherRecord} :
    planMutation runtime mutation answer { impl with publishers } =
      planMutation runtime mutation answer impl := rfl

end Phases

/-- A record with the applied evidence, the drift and the evidence generation replaced. -/
def PortRecord.settledWith (record : PortRecord) (applied : AppliedEvidence) (drift : DriftState)
    (evidence : EvidenceGeneration) : PortRecord :=
  { record with applied, drift, generations := { record.generations with evidence } }

/-- What the adapter phase may change of a plan before it is committed. -/
structure Settles (plan proposal : MutationPlan) (final : PortRecord) : Prop where
  expected : proposal.expected = plan.expected
  lastMutation : proposal.next.lastMutation = plan.next.lastMutation
  lifecycle : proposal.next.lifecycle = plan.next.lifecycle
  final : ∃ applied drift evidence,
    final = plan.next.settledWith applied drift evidence ∧
      plan.next.generations.evidence ≤ evidence ∧
      (plan.next.drift.isValid = true → drift.isValid = true) ∧
      (plan.next.applied.outcome.isValid = true → applied.outcome.isValid = true)

section Settling

variable {runtime : Runtime} {snapshot : PortRecord} {plan proposal : MutationPlan}
  {answers : MutationAnswers} {applied : AppliedEvidence} {settled : Bool}

private theorem settles_unchanged (settled : Bool) (applied : AppliedEvidence)
    (legal : settled = true → applied.outcome.isValid = true) :
    Settles plan plan (EngineImpl.committedRecord plan applied settled) where
  expected := rfl
  lastMutation := rfl
  lifecycle := rfl
  final := by
    cases settled with
    | false =>
        exact ⟨plan.next.applied, plan.next.drift, plan.next.generations.evidence, rfl,
          Generation.le_refl _, id, id⟩
    | true =>
        exact ⟨applied, plan.next.drift, plan.next.generations.evidence, rfl,
          Generation.le_refl _, id, fun _ => legal rfl⟩

private theorem settles_settlePlan {given : AppliedEvidence}
    (legal : given.outcome.isValid = true)
    (decided : settlePlan plan given = .commit proposal applied settled) :
    Settles plan proposal (EngineImpl.committedRecord proposal applied settled) := by
  simp only [settlePlan, ApplyDecision.commit.injEq] at decided
  obtain ⟨rfl, rfl, rfl⟩ := decided
  refine ⟨rfl, rfl, rfl, _, _, _, rfl, Generation.le_advance _, ?_, fun _ => legal⟩
  intro valid
  dsimp only
  split
  · rfl
  · split
    · rfl
    · split
      · rfl
      · exact valid

theorem applyPlan_commit
    (decided : applyPlan runtime snapshot plan answers = .commit proposal applied settled) :
    Settles plan proposal (EngineImpl.committedRecord proposal applied settled) := by
  unfold applyPlan at decided
  split at decided
  · cases decided
    exact settles_unchanged false _ (by simp)
  · split at decided
    · cases decided
      exact settles_unchanged true _ (fun _ => rfl)
    · split at decided
      · exact settles_settlePlan rfl decided
      · split at decided
        · split at decided
          · unfold verifyApplied at decided
            split at decided
            · exact settles_settlePlan rfl decided
            · cases decided
            · cases decided
            · exact settles_settlePlan rfl decided
          · exact settles_settlePlan rfl decided
        · exact settles_settlePlan rfl decided
        · cases decided
        · cases decided

theorem applyPlan_uncertain {generation : PortConfigurationGeneration} {detail : Text}
    {code : OutcomeCode} {reply : Option MutationResult}
    (decided : applyPlan runtime snapshot plan answers = .uncertain generation detail code reply) :
    plan.requiresApply = true := by
  unfold applyPlan at decided
  split at decided
  · cases decided
  · next required => simpa using required

theorem applyPlan_reject_code {reply : Reply}
    (decided : applyPlan runtime snapshot plan answers = .reject reply) :
    reply.code? ≠ some .ok := by
  unfold applyPlan at decided
  repeat' split at decided
  all_goals first
    | cases decided
    | (unfold verifyApplied at decided; split at decided <;> cases decided)
  simp [Reply.code?, Outcome.failure]

/-- An uncertain apply is reported as such, or as a readback that disagrees. -/
theorem applyPlan_uncertain_code {generation : PortConfigurationGeneration} {detail : Text}
    {code : OutcomeCode} {reply : Option MutationResult}
    (decided : applyPlan runtime snapshot plan answers = .uncertain generation detail code reply) :
    (reply.getD (.rejected code detail)).outcome.code = .applyOutcomeUnknown ∨
      (reply.getD (.rejected code detail)).outcome.code = .readbackMismatch := by
  unfold applyPlan at decided
  split at decided
  · cases decided
  split at decided
  · cases decided
  split at decided
  · cases decided
  split at decided
  · split at decided
    · unfold verifyApplied at decided
      split at decided
      · cases decided
      · cases decided
        exact .inr (by simp [Outcome.failure])
      · cases decided
        exact .inl rfl
      · cases decided
    · cases decided
  · cases decided
  · cases decided
  · cases decided
    exact .inl rfl

end Settling

section Execution

variable (runtime : Runtime) (mutation : Mutation) (answers : MutationAnswers) (impl : EngineImpl)

abbrev EngineImpl.authorised : EngineImpl := (impl.checkAuthority runtime mutation.authority).1

/-- The mutation passes every gate of the state and has this plan for this snapshot. -/
structure Planned (snapshot : PortRecord) (plan : MutationPlan) : Prop where
  admitted : admitMutation impl mutation = .ok ()
  authorised : (impl.checkAuthority runtime mutation.authority).2.isOk = true
  planned : planMutation runtime mutation answers.provider impl = .ok (snapshot, plan)

/-- The mutation replaces the snapshot by the final record. -/
structure Commits (snapshot : PortRecord) (plan : MutationPlan) (final : PortRecord) : Prop
    extends Planned runtime mutation answers impl snapshot plan where
  stored : ∃ proposal applied settled committed,
    applyPlan runtime snapshot plan answers = .commit proposal applied settled ∧
      (impl.authorised runtime mutation).commitRecord mutation.port proposal applied settled =
        .ok committed ∧
      final = EngineImpl.committedRecord proposal applied settled

/-- The mutation records an uncertain apply over the snapshot. -/
structure Doubts (snapshot : PortRecord) (plan : MutationPlan)
    (generation : PortConfigurationGeneration) (detail : Text) : Prop
    extends Planned runtime mutation answers impl snapshot plan where
  doubted : ∃ code reply,
    applyPlan runtime snapshot plan answers = .uncertain generation detail code reply

/-- What one mutation does to the engine. -/
inductive MutationEffect : EngineImpl → Prop where
  | unrecorded {after : EngineImpl}
      (uncommitted : ∀ snapshot plan final,
        ¬Commits runtime mutation answers impl snapshot plan final)
      (undoubted : ∀ snapshot plan generation detail,
        ¬Doubts runtime mutation answers impl snapshot plan generation detail)
      (frame : after = impl ∨ after = impl.authorised runtime mutation) :
      MutationEffect after
  | committed {snapshot final : PortRecord} {plan : MutationPlan}
      (commits : Commits runtime mutation answers impl snapshot plan final) :
      MutationEffect
        (((impl.authorised runtime mutation).replaceRecord mutation.port snapshot
          final).persistLockedState runtime answers.store).1
  | doubted {snapshot : PortRecord} {plan : MutationPlan}
      {generation : PortConfigurationGeneration} {detail : Text}
      (doubts : Doubts runtime mutation answers impl snapshot plan generation detail) :
      MutationEffect
        (((impl.authorised runtime mutation).replaceRecord mutation.port snapshot
          (snapshot.uncertain runtime mutation.authority generation .outcomeUnknown
            detail)).persistLockedState runtime answers.store).1

inductive MutationRecords : RecordMap → Prop where
  | unrecorded
      (uncommitted : ∀ snapshot plan final,
        ¬Commits runtime mutation answers impl snapshot plan final)
      (undoubted : ∀ snapshot plan generation detail,
        ¬Doubts runtime mutation answers impl snapshot plan generation detail) :
      MutationRecords impl.records
  | committed {snapshot final : PortRecord} {plan : MutationPlan}
      (commits : Commits runtime mutation answers impl snapshot plan final) :
      MutationRecords (impl.records.insert mutation.port final)
  | doubted {snapshot : PortRecord} {plan : MutationPlan}
      {generation : PortConfigurationGeneration} {detail : Text}
      (doubts : Doubts runtime mutation answers impl snapshot plan generation detail) :
      MutationRecords (impl.records.insert mutation.port
        (snapshot.uncertain runtime mutation.authority generation .outcomeUnknown detail))

end Execution

section Effects

variable {runtime : Runtime} {mutation : Mutation} {answers : MutationAnswers} {impl : EngineImpl}
  {snapshot : PortRecord} {plan : MutationPlan}

theorem EngineImpl.authorised_records :
    (impl.authorised runtime mutation).records = impl.records := by
  obtain ⟨_, same⟩ := EngineImpl.checkAuthority_frame runtime impl mutation.authority
  rw [EngineImpl.authorised, same]

theorem EngineImpl.authorised_generation :
    (impl.authorised runtime mutation).generation = impl.generation := by
  obtain ⟨_, same⟩ := EngineImpl.checkAuthority_frame runtime impl mutation.authority
  rw [EngineImpl.authorised, same]

theorem EngineImpl.authorised_devices :
    (impl.authorised runtime mutation).devices = impl.devices := by
  obtain ⟨_, same⟩ := EngineImpl.checkAuthority_frame runtime impl mutation.authority
  rw [EngineImpl.authorised, same]

theorem EngineImpl.authorised_epoch :
    (impl.authorised runtime mutation).epoch = impl.epoch := by
  obtain ⟨_, same⟩ := EngineImpl.checkAuthority_frame runtime impl mutation.authority
  rw [EngineImpl.authorised, same]

theorem planMutation_authorised {answer : ProviderAnswer} :
    planMutation runtime mutation answer (impl.authorised runtime mutation) =
      planMutation runtime mutation answer impl := by
  obtain ⟨_, same⟩ := EngineImpl.checkAuthority_frame runtime impl mutation.authority
  rw [EngineImpl.authorised, same, planMutation_publishers]

theorem Planned.snapshot_found
    (planned : Planned runtime mutation answers impl snapshot plan) :
    impl.records[mutation.port]? = some snapshot :=
  (observe_ok (planMutation_ok planned.planned).1).1

theorem Planned.authorised_found
    (planned : Planned runtime mutation answers impl snapshot plan) :
    (impl.authorised runtime mutation).records[mutation.port]? = some snapshot := by
  rw [EngineImpl.authorised_records]
  exact planned.snapshot_found

theorem Planned.concluded (planned : Planned runtime mutation answers impl snapshot plan) :
    executeMutation runtime mutation answers impl =
      concludeMutation runtime mutation (applyPlan runtime snapshot plan answers) answers.store
        (impl.authorised runtime mutation) := by
  have authorised : authorise runtime impl mutation =
      (impl.authorised runtime mutation, .ok ()) := by
    simp [authorise, planned.authorised]
  simp only [executeMutation, planned.admitted, authorised, planMutation_authorised,
    planned.planned]

theorem Planned.unique {other : PortRecord} {proposal : MutationPlan}
    (planned : Planned runtime mutation answers impl snapshot plan)
    (again : Planned runtime mutation answers impl other proposal) :
    snapshot = other ∧ plan = proposal := by
  have same := planned.planned.symm.trans again.planned
  simpa using same

theorem Commits.unique {other final stored : PortRecord} {proposal : MutationPlan}
    (commits : Commits runtime mutation answers impl snapshot plan final)
    (again : Commits runtime mutation answers impl other proposal stored) :
    snapshot = other ∧ plan = proposal ∧ final = stored := by
  obtain ⟨rfl, rfl⟩ := commits.toPlanned.unique again.toPlanned
  obtain ⟨_, _, _, _, decided, _, rfl⟩ := commits.stored
  obtain ⟨_, _, _, _, redecided, _, rfl⟩ := again.stored
  have same := decided.symm.trans redecided
  simp only [ApplyDecision.commit.injEq] at same
  obtain ⟨rfl, rfl, rfl⟩ := same
  exact ⟨rfl, rfl, rfl⟩

theorem Doubts.unique {other : PortRecord} {proposal : MutationPlan}
    {generation again : PortConfigurationGeneration} {detail text : Text}
    (doubts : Doubts runtime mutation answers impl snapshot plan generation detail)
    (redoubts : Doubts runtime mutation answers impl other proposal again text) :
    snapshot = other ∧ plan = proposal ∧ generation = again ∧ detail = text := by
  obtain ⟨rfl, rfl⟩ := doubts.toPlanned.unique redoubts.toPlanned
  obtain ⟨_, _, decided⟩ := doubts.doubted
  obtain ⟨_, _, redecided⟩ := redoubts.doubted
  have same := decided.symm.trans redecided
  simp only [ApplyDecision.uncertain.injEq] at same
  exact ⟨rfl, rfl, same.1, same.2.1⟩

/-- A committed record is a validated proposal, stamped and settled. -/
theorem Commits.spec {final : PortRecord}
    (commits : Commits runtime mutation answers impl snapshot plan final) :
    ∃ (capability : CapabilityBinding) (proposal : MutationPlan) (applied : AppliedEvidence)
      (drift : DriftState) (evidence : EvidenceGeneration),
      mutation.build
        { current := snapshot, topology := impl.topology,
          parentDeviceGeneration := (readContext impl snapshot).deviceGeneration, capability,
          profiles := impl.profiles } = .ok proposal ∧
      proposal.next.validate = .ok () ∧
      final = (stampPlan mutation proposal).next.settledWith applied drift evidence ∧
      (proposal.next.drift.isValid = true → drift.isValid = true) ∧
      (proposal.next.applied.outcome.isValid = true → applied.outcome.isValid = true) := by
  obtain ⟨_, _, _, prepared⟩ := planMutation_ok commits.planned
  obtain ⟨capability, proposal, built, validated, rfl⟩ := preparePlan_ok prepared
  obtain ⟨_, _, _, _, decided, _, rfl⟩ := commits.stored
  obtain ⟨applied, drift, evidence, settled, _, legalDrift, legalOutcome⟩ :=
    (applyPlan_commit decided).final
  exact ⟨capability, proposal, applied, drift, evidence, built, validated, settled, legalDrift,
    legalOutcome⟩

/-- An uncertain apply concerns an unconfigured port or one with a configuration. -/
theorem Doubts.configured {generation : PortConfigurationGeneration} {detail : Text}
    (doubts : Doubts runtime mutation answers impl snapshot plan generation detail) :
    snapshot.lifecycle = .unconfigured ∨ snapshot.configuration.isSome = true := by
  obtain ⟨_, _, _, prepared⟩ := planMutation_ok doubts.planned
  obtain ⟨capability, proposal, built, _, rfl⟩ := preparePlan_ok prepared
  obtain ⟨_, _, decided⟩ := doubts.doubted
  have required := applyPlan_uncertain decided
  exact Mutation.build_requiresApply built required

theorem Commits.not_doubts {final other : PortRecord} {proposal : MutationPlan}
    {generation : PortConfigurationGeneration} {detail : Text}
    (commits : Commits runtime mutation answers impl snapshot plan final)
    (doubts : Doubts runtime mutation answers impl other proposal generation detail) : False := by
  obtain ⟨rfl, rfl⟩ := commits.toPlanned.unique doubts.toPlanned
  obtain ⟨_, _, _, _, decided, _, _⟩ := commits.stored
  obtain ⟨_, _, redecided⟩ := doubts.doubted
  rw [decided] at redecided
  cases redecided

private theorem effect_unplanned {after : EngineImpl}
    (unplanned : ∀ snapshot plan, ¬Planned runtime mutation answers impl snapshot plan)
    (frame : after = impl ∨ after = impl.authorised runtime mutation) :
    MutationEffect runtime mutation answers impl after :=
  .unrecorded (fun _ _ _ commits => unplanned _ _ commits.toPlanned)
    (fun _ _ _ _ doubts => unplanned _ _ doubts.toPlanned) frame

private theorem effect_planned (planned : Planned runtime mutation answers impl snapshot plan) :
    MutationEffect runtime mutation answers impl
      (concludeMutation runtime mutation (applyPlan runtime snapshot plan answers) answers.store
        (impl.authorised runtime mutation)).1 := by
  have found := planned.authorised_found
  cases decided : applyPlan runtime snapshot plan answers with
  | reject reply =>
      refine .unrecorded ?_ ?_ (.inr rfl)
      · intro _ _ _ commits
        obtain ⟨rfl, rfl⟩ := planned.unique commits.toPlanned
        obtain ⟨_, _, _, _, redecided, _⟩ := commits.stored
        rw [decided] at redecided
        cases redecided
      · intro _ _ _ _ doubts
        obtain ⟨rfl, rfl⟩ := planned.unique doubts.toPlanned
        obtain ⟨_, _, redecided⟩ := doubts.doubted
        rw [decided] at redecided
        cases redecided
  | commit proposal applied settled =>
      cases stored : (impl.authorised runtime mutation).commitRecord mutation.port proposal applied
          settled with
      | error result =>
          simp only [concludeMutation, EngineImpl.commit, stored]
          refine .unrecorded ?_ ?_ (.inr rfl)
          · intro _ _ _ commits
            obtain ⟨rfl, rfl⟩ := planned.unique commits.toPlanned
            obtain ⟨_, _, _, _, redecided, restored, _⟩ := commits.stored
            rw [decided] at redecided
            cases redecided
            rw [stored] at restored
            cases restored
          · intro _ _ _ _ doubts
            obtain ⟨rfl, rfl⟩ := planned.unique doubts.toPlanned
            obtain ⟨_, _, redecided⟩ := doubts.doubted
            rw [decided] at redecided
            cases redecided
      | ok committed =>
          obtain ⟨current, present, _, _, _, _, rfl⟩ := EngineImpl.commitRecord_ok stored
          obtain rfl : current = snapshot := by
            rw [found] at present
            exact (Option.some.inj present).symm
          simp only [concludeMutation, EngineImpl.commit, stored]
          exact .committed ⟨planned, _, _, _, _, decided, stored, rfl⟩
  | uncertain generation detail code reply =>
      simp only [concludeMutation, EngineImpl.recordApplyUncertainty, EngineImpl.recordUncertainty,
        found, Option.isSome_some, ite_true]
      exact .doubted ⟨planned, _, _, decided⟩

/-- A mutation leaves the records alone, commits once or records one uncertain apply. -/
theorem executeMutation_effect (runtime : Runtime) (mutation : Mutation)
    (answers : MutationAnswers) (impl : EngineImpl) :
    MutationEffect runtime mutation answers impl
      (executeMutation runtime mutation answers impl).1 := by
  unfold executeMutation
  split
  · next refused =>
      exact effect_unplanned
        (fun _ _ planned => by have := planned.admitted; rw [refused] at this; cases this)
        (.inl rfl)
  · next admitted =>
      by_cases accepted : (impl.checkAuthority runtime mutation.authority).2.isOk = true
      · have authorised : authorise runtime impl mutation =
            (impl.authorised runtime mutation, .ok ()) := by
          simp [authorise, accepted]
        simp only [authorised, planMutation_authorised]
        cases planned : planMutation runtime mutation answers.provider impl with
        | error reply =>
            exact effect_unplanned
              (fun _ _ again => by have := again.planned; rw [planned] at this; cases this)
              (.inr rfl)
        | ok found => exact effect_planned ⟨admitted, accepted, planned⟩
      · have refused : authorise runtime impl mutation =
            (impl.authorised runtime mutation,
              .error
                (.result { outcome := (impl.checkAuthority runtime mutation.authority).2 })) := by
          simp [authorise, accepted]
        simp only [refused]
        exact effect_unplanned (fun _ _ planned => accepted planned.authorised) (.inr rfl)

theorem executeMutation_records (runtime : Runtime) (mutation : Mutation)
    (answers : MutationAnswers) (impl : EngineImpl) :
    MutationRecords runtime mutation answers impl
      (executeMutation runtime mutation answers impl).1.records := by
  have effect := executeMutation_effect runtime mutation answers impl
  generalize (executeMutation runtime mutation answers impl).1 = after at effect ⊢
  cases effect with
  | unrecorded uncommitted undoubted frame =>
      have kept : after.records = impl.records := by
        rcases frame with rfl | rfl
        · rfl
        · exact EngineImpl.authorised_records
      rw [kept]
      exact .unrecorded uncommitted undoubted
  | committed commits =>
      rw [EngineImpl.persistLockedState_records, EngineImpl.replaceRecord_records,
        EngineImpl.authorised_records]
      exact .committed commits
  | doubted doubts =>
      rw [EngineImpl.persistLockedState_records, EngineImpl.replaceRecord_records,
        EngineImpl.authorised_records]
      exact .doubted doubts

theorem executeMutation_epoch :
    (executeMutation runtime mutation answers impl).1.epoch = impl.epoch := by
  have effect := executeMutation_effect runtime mutation answers impl
  generalize (executeMutation runtime mutation answers impl).1 = after at effect ⊢
  cases effect with
  | unrecorded _ _ frame =>
      rcases frame with rfl | rfl
      · rfl
      · exact EngineImpl.authorised_epoch
  | committed _ => simp [EngineImpl.authorised_epoch]
  | doubted _ => simp [EngineImpl.authorised_epoch]

theorem Commits.after_eq {final : PortRecord}
    (commits : Commits runtime mutation answers impl snapshot plan final) :
    (executeMutation runtime mutation answers impl).1.records =
        impl.records.insert mutation.port final ∧
      (executeMutation runtime mutation answers impl).1.devices = impl.devices := by
  have effect := executeMutation_effect runtime mutation answers impl
  generalize (executeMutation runtime mutation answers impl).1 = after at effect ⊢
  cases effect with
  | unrecorded uncommitted _ _ => exact absurd commits (uncommitted _ _ _)
  | committed again =>
      obtain ⟨rfl, rfl, rfl⟩ := commits.unique again
      simp [EngineImpl.authorised_records, EngineImpl.authorised_devices]
  | doubted doubts => exact (commits.not_doubts doubts).elim

theorem Doubts.after_eq {generation : PortConfigurationGeneration} {detail : Text}
    (doubts : Doubts runtime mutation answers impl snapshot plan generation detail) :
    (executeMutation runtime mutation answers impl).1.records =
      impl.records.insert mutation.port
        (snapshot.uncertain runtime mutation.authority generation .outcomeUnknown detail) := by
  have effect := executeMutation_records runtime mutation answers impl
  generalize (executeMutation runtime mutation answers impl).1.records = after at effect ⊢
  cases effect with
  | unrecorded _ undoubted => exact absurd doubts (undoubted _ _ _ _)
  | committed commits => exact (commits.not_doubts doubts).elim
  | doubted again =>
      obtain ⟨rfl, rfl, rfl, rfl⟩ := doubts.unique again
      rfl

theorem Doubts.after_generation {generation : PortConfigurationGeneration} {detail : Text}
    (doubts : Doubts runtime mutation answers impl snapshot plan generation detail) :
    (executeMutation runtime mutation answers impl).1.generation = impl.generation.next := by
  have effect := executeMutation_effect runtime mutation answers impl
  generalize (executeMutation runtime mutation answers impl).1 = after at effect ⊢
  cases effect with
  | unrecorded _ undoubted _ => exact absurd doubts (undoubted _ _ _ _)
  | committed commits => exact (commits.not_doubts doubts).elim
  | doubted _ =>
      have counted : (impl.authorised runtime mutation).generation = impl.generation :=
        EngineImpl.authorised_generation
      rw [EngineImpl.persistLockedState_generation, ← counted]
      rfl

theorem executeMutation_stamps (runtime : Runtime) (mutation : Mutation)
    (answers : MutationAnswers) (impl : EngineImpl) :
    impl.Stamps (executeMutation runtime mutation answers impl).1 := by
  have effect := executeMutation_effect runtime mutation answers impl
  generalize (executeMutation runtime mutation answers impl).1 = after at effect ⊢
  cases effect with
  | unrecorded _ _ frame =>
      rcases frame with rfl | rfl
      · exact .refl _
      · exact .inl ⟨EngineImpl.authorised_records, EngineImpl.authorised_generation⟩
  | committed _ | doubted _ =>
      have counted : (impl.authorised runtime mutation).generation = impl.generation :=
        EngineImpl.authorised_generation
      refine .inr ?_
      rw [EngineImpl.persistLockedState_generation, Generation.advance_eq_next, ← counted]
      rfl

/-- What the adapter phase hands to the commit expects the snapshot and carries the attempt. -/
theorem Planned.proposal (planned : Planned runtime mutation answers impl snapshot plan)
    {proposal : MutationPlan} {applied : AppliedEvidence} {settled : Bool}
    (decided : applyPlan runtime snapshot plan answers = .commit proposal applied settled) :
    proposal.expected = .capture snapshot ∧
      proposal.next.lastMutation.attempt = mutation.attempt := by
  obtain ⟨_, _, _, prepared⟩ := planMutation_ok planned.planned
  obtain ⟨capability, draft, built, _, rfl⟩ := preparePlan_ok prepared
  have settles := applyPlan_commit decided
  exact ⟨settles.expected.trans (Mutation.build_expected built),
    congrArg LastMutationRecord.attempt settles.lastMutation⟩

end Effects

end PortFabric
