import Mathlib.Data.List.Induction
import PortFabric.Engine.Fixture
import PortFabric.Engine.RecordSteps

/-!
# Evidence binding

A live configuration is supported by the evidence bound to its port. It names
the generation of that evidence until the evidence is rebound.
-/

set_option autoImplicit false

namespace PortFabric

open PortFabricEngine

/-- The port's committed configuration is of the given generation. -/
def EngineImpl.ConfiguredAt (port : PortId) (generation : PortConfigurationGeneration)
    (impl : EngineImpl) : Prop :=
  ∃ (record : PortRecord) (configuration : PortConfiguration),
    impl.records[port]? = some record ∧ record.configuration = some configuration ∧
      configuration.generation = generation

/-- The operation commits a binding of evidence to the port. -/
def RebindsEvidence (runtime : Runtime) (port : PortId) (impl : EngineImpl)
    (operation : Operation) : Prop :=
  ∃ request answers snapshot plan final,
    operation = .mutate (.bindCapabilities request) answers ∧ request.envelope.port = port ∧
      Commits runtime (.bindCapabilities request) answers impl snapshot plan final

/-- Evidence was bound to the port after the configuration generation was committed. -/
def ReboundSince (runtime : Runtime) (port : PortId) (generation : PortConfigurationGeneration)
    (operations : List Operation) : Prop :=
  Runs.Since (EngineImpl.perform runtime) (RebindsEvidence runtime port)
    (EngineImpl.ConfiguredAt port generation) (.initial runtime.config) operations

/-- The capability generation of the record is the one of its bound evidence. -/
def PortRecord.EvidenceCoherent (record : PortRecord) : Prop :=
  record.capability.present = true → record.generations.capability = record.capability.generation

/-- A load reads a record of the port whose capability generation is not that of its evidence. -/
def ReadsIncoherent (port : PortId) (operations : List Operation) : Prop :=
  ∃ state, .load (.ok state) ∈ operations ∧
    ∃ record ∈ state.records, record.port = port ∧ ¬record.EvidenceCoherent

/-- The bound evidence of the record, if any, supports its configuration while it is live. -/
def PortRecord.Supported (record : PortRecord) : Prop :=
  ∀ configuration, record.lifecycle.isLive = true → record.configuration = some configuration →
    record.capability.present = true →
      validateAgainstCapabilities configuration record.capability = .ok ()

/-- The configuration names the generation of the bound evidence until that is rebound. -/
def PortRecord.NamesEvidence (runtime : Runtime) (operations : List Operation) (port : PortId)
    (record : PortRecord) : Prop :=
  ∀ configuration, record.lifecycle.isLive = true → record.configuration = some configuration →
    record.capability.present = true →
      configuration.capabilityGeneration = record.generations.capability ∨
        ReboundSince runtime port configuration.generation operations ∨
        ReadsIncoherent port operations

/-- What holds of the record of a port after the operations. -/
structure PortRecord.FollowsEvidence (runtime : Runtime) (operations : List Operation)
    (port : PortId) (record : PortRecord) : Prop where
  supported : record.Supported
  named : record.NamesEvidence runtime operations port
  coherent : record.EvidenceCoherent ∨ ReadsIncoherent port operations

/-- The later record stands no better than the earlier one, under the same evidence. -/
structure PortRecord.Continues (before after : PortRecord) : Prop where
  live : after.lifecycle.isLive = true → before.lifecycle.isLive = true
  configuration : ∀ configuration, after.configuration = some configuration →
    ∃ former, before.configuration = some former ∧
      former.generation = configuration.generation ∧
      former.capabilityGeneration = configuration.capabilityGeneration ∧
      ∀ binding, validateAgainstCapabilities former binding =
        validateAgainstCapabilities configuration binding
  capability : after.capability = before.capability
  generation : after.generations.capability = before.generations.capability

theorem ReadsIncoherent.later {port : PortId} {operations : List Operation}
    (incoherent : ReadsIncoherent port operations) (operation : Operation) :
    ReadsIncoherent port (operations ++ [operation]) := by
  obtain ⟨state, member, record⟩ := incoherent
  exact ⟨state, List.mem_append_left _ member, record⟩

namespace PortRecord

variable {runtime : Runtime} {operations : List Operation} {operation : Operation}
  {port : PortId} {before after : PortRecord}

theorem Continues.of_same (lifecycle : after.lifecycle = before.lifecycle)
    (configuration : after.configuration = before.configuration)
    (capability : after.capability = before.capability)
    (generation : after.generations.capability = before.generations.capability) :
    before.Continues after := by
  refine ⟨fun live => lifecycle ▸ live, fun found configured => ?_, capability, generation⟩
  exact ⟨found, configuration ▸ configured, rfl, rfl, fun _ => rfl⟩

/-- A record that continues the one before follows its evidence as well. -/
theorem FollowsEvidence.continue (follows : before.FollowsEvidence runtime operations port)
    (continues : before.Continues after)
    (stored : (EngineImpl.after runtime (operations ++ [operation])).records[port]? = some after) :
    after.FollowsEvidence runtime (operations ++ [operation]) port := by
  obtain ⟨live, configuration, capability, generation⟩ := continues
  constructor
  · intro found alive configured present
    obtain ⟨former, earlier, _, _, same⟩ := configuration found configured
    rw [capability] at present ⊢
    rw [← same]
    exact follows.supported former (live alive) earlier present
  · intro found alive configured present
    obtain ⟨former, earlier, committed, named, _⟩ := configuration found configured
    rw [capability] at present
    -- The earlier reason carries over, since the configuration keeps its generation.
    obtain current | rebound | incoherent := follows.named former (live alive) earlier present
    · left
      rw [generation, ← named]
      exact current
    · rw [committed] at rebound
      exact .inr (.inl (rebound.concat ⟨after, found, stored, configured, rfl⟩))
    · exact .inr (.inr (incoherent.later operation))
  · refine follows.coherent.imp ?_ fun incoherent => incoherent.later operation
    intro coherent present
    rw [capability] at present ⊢
    rw [generation]
    exact coherent present

/-- A configuration validated against the bound evidence follows it. -/
theorem FollowsEvidence.configure (follows : before.FollowsEvidence runtime operations port)
    {configuration : PortConfiguration} {evidence : CapabilityBinding}
    (configured : after.configuration = some configuration)
    (capability : after.capability = before.capability)
    (generation : after.generations.capability = before.generations.capability)
    (named : configuration.capabilityGeneration = evidence.generation)
    (validated : validateAgainstCapabilities configuration evidence = .ok ())
    (resolved : before.capability.present = true → evidence = before.capability)
    (operation : Operation) :
    after.FollowsEvidence runtime (operations ++ [operation]) port := by
  constructor
  · intro found _ again present
    cases configured.symm.trans again
    rw [capability] at present ⊢
    exact resolved present ▸ validated
  · intro found _ again present
    cases configured.symm.trans again
    rw [capability] at present
    obtain coherent | incoherent := follows.coherent
    · left
      rw [generation, named, resolved present]
      exact (coherent present).symm
    · exact .inr (.inr (incoherent.later operation))
  · refine follows.coherent.imp ?_ fun incoherent => incoherent.later operation
    intro coherent present
    rw [capability] at present ⊢
    rw [generation]
    exact coherent present

/-- A record without a live configuration follows its evidence when that is coherent. -/
theorem FollowsEvidence.of_idle
    (idle : after.configuration.isSome = true → after.lifecycle.isLive = false)
    (coherent : after.EvidenceCoherent ∨ ReadsIncoherent port operations) :
    after.FollowsEvidence runtime operations port := by
  have inert {configuration : PortConfiguration} (live : after.lifecycle.isLive = true)
      (configured : after.configuration = some configuration) : False := by
    rw [idle (by rw [configured]; rfl)] at live
    cases live
  exact ⟨fun _ live configured => (inert live configured).elim,
    fun _ live configured => (inert live configured).elim, coherent⟩

theorem Continues.settled {mutation : Mutation} {plan : MutationPlan} {applied : AppliedEvidence}
    {drift : DriftState} {evidence : EvidenceGeneration}
    (continues : before.Continues plan.next) :
    before.Continues ((stampPlan mutation plan).next.settledWith applied drift evidence) := by
  obtain ⟨live, configuration, capability, generation⟩ := continues
  exact ⟨live, configuration, capability, generation⟩

end PortRecord

section Steps

variable {runtime : Runtime} {operations : List Operation} {port : PortId}

theorem validatePlan_supported {snapshot : PortRecord} {plan : MutationPlan}
    (validated : validatePlan snapshot plan = .ok ())
    (required : plan.requiresCapabilityValidation = true) {configuration : PortConfiguration}
    (configured : plan.next.configuration = some configuration) :
    validateAgainstCapabilities configuration plan.capability = .ok () := by
  unfold validatePlan at validated
  simp only [required, configured, Bool.not_true, Bool.false_eq_true, if_false] at validated
  split at validated
  · cases validated
  · split at validated
    · assumption
    · cases validated

/-- The plan commits a configuration validated against the evidence it was built with. -/
structure Configures (input : MutationBuildInput) (plan : MutationPlan)
    (configuration : PortConfiguration) : Prop where
  configured : plan.next.configuration = some configuration
  named : configuration.capabilityGeneration = input.capability.generation
  validated : plan.requiresCapabilityValidation = true
  evidence : plan.capability = input.capability
  capability : plan.next.capability = input.current.capability
  generation : plan.next.generations.capability = input.current.generations.capability

/-- A plan commits a configuration, rebinds the evidence, or continues the record. -/
theorem Proposal.configures_or {mutation : Mutation} {input : MutationBuildInput}
    {plan : MutationPlan} (proposed : Proposal mutation input plan)
    (present : needsConfigurationExpectation mutation.kind = true →
      input.capability.present = true) :
    (needsConfigurationExpectation mutation.kind = true ∧
        ∃ configuration, Configures input plan configuration) ∨
      (∃ request, mutation = .bindCapabilities request ∧
        plan.next = (input.current.withEvidence request.binding).reexamined request.binding) ∨
      input.current.Continues plan.next := by
  cases proposed with
  | configured requested _ generation _ planned =>
      subst requested
      rw [planned]
      exact .inl ⟨rfl, _, rfl, generation, rfl, rfl, rfl, rfl⟩
  | replaced requested _ _ generation _ planned =>
      have needed : needsConfigurationExpectation mutation.kind = true := by
        rcases requested with kind | kind <;> rw [kind] <;> rfl
      rw [planned]
      exact .inl ⟨needed, _, rfl, generation (present needed), rfl, rfl, rfl, rfl⟩
  | reconciled requested _ generation _ planned =>
      subst requested
      rw [planned]
      exact .inl ⟨rfl, _, rfl, generation, rfl, rfl, rfl, rfl⟩
  | @rebound request requested _ next => exact .inr (.inl ⟨request, requested, next⟩)
  | administered _ committed live _ _ next =>
      rw [next]
      refine .inr (.inr ⟨fun _ => live, ?_, rfl, rfl⟩)
      intro _ given
      cases given
      exact ⟨_, committed, rfl, rfl, fun _ => rfl⟩
  | @fenced lifecycle reason detail retire _ _ allowed result next =>
      obtain ⟨_, _, same⟩ := (input.current.fenced lifecycle reason detail).disowned_eq retire
      have dead : lifecycle.isLive = false := by
        rw [result]
        revert allowed
        cases retire <;> cases input.current.lifecycle <;> decide
      rw [next]
      dsimp only
      rw [same]
      refine .inr (.inr ⟨fun live => ?_, fun found configured => ?_, rfl, rfl⟩)
      · exact absurd (dead.symm.trans live) (by decide)
      · exact ⟨found, configured, rfl, rfl, fun _ => rfl⟩
  | reowned _ _ next =>
      rw [next]
      exact .inr (.inr (.of_same rfl rfl rfl rfl))
  | @evidenced request _ _ _ _ next =>
      obtain ⟨_, _, _, _, _, _, _, same, judged⟩ := input.current.evidenced_eq request.evidence
      rw [next, same]
      refine .inr (.inr ⟨fun live => ?_, fun found configured => ?_, rfl, rfl⟩)
      · obtain kept | ⟨former, _⟩ := judged
        · exact kept ▸ live
        · exact former
      · exact ⟨found, configured, rfl, rfl, fun _ => rfl⟩
  | @observed request _ _ next =>
      obtain ⟨_, _, _, _, _, same, judged⟩ :=
        input.current.drifted_eq request.observed request.detail
      rw [next, same]
      refine .inr (.inr ⟨fun live => ?_, fun found configured => ?_, rfl, rfl⟩)
      · obtain kept | ⟨former, _⟩ | ⟨allowed, conflicted⟩ := judged
        · exact kept ▸ live
        · exact former
        · have dead :
              (evaluateTransition input.current.lifecycle .conflict).result.isLive = false := by
            revert allowed
            cases input.current.lifecycle <;> decide
          rw [conflicted] at live
          exact absurd (dead.symm.trans live) (by decide)
      · exact ⟨found, configured, rfl, rfl, fun _ => rfl⟩

private theorem follows_rebound {request : CapabilityRequest} {answers : MutationAnswers}
    {snapshot : PortRecord} {plan proposal : MutationPlan} {applied : AppliedEvidence}
    {drift : DriftState} {evidence : EvidenceGeneration}
    (commits : Commits runtime (.bindCapabilities request) answers (.after runtime operations)
      snapshot plan
      ((stampPlan (.bindCapabilities request) proposal).next.settledWith applied drift evidence))
    (stored : (EngineImpl.after runtime
        (operations ++ [.mutate (.bindCapabilities request) answers])).records[
          request.envelope.port]? =
      some ((stampPlan (.bindCapabilities request) proposal).next.settledWith applied drift
        evidence))
    (next : proposal.next =
      (snapshot.withEvidence request.binding).reexamined request.binding) :
    ((stampPlan (.bindCapabilities request) proposal).next.settledWith applied drift
        evidence).FollowsEvidence runtime
      (operations ++ [.mutate (.bindCapabilities request) answers]) request.envelope.port := by
  obtain ⟨_, _, _, _, _, same, judged⟩ :=
    (snapshot.withEvidence request.binding).reexamined_eq request.binding
  rw [same] at next
  constructor
  · intro configuration live configured _
    simp only [stampPlan, PortRecord.settledWith, next] at live configured ⊢
    -- A configuration the new evidence rejects is not live afterwards.
    obtain ⟨fenced, _⟩ | ⟨_, supported⟩ := judged
    · rw [fenced] at live
      cases live
    · exact supported configuration configured
  · intro configuration _ configured _
    have rebinds : RebindsEvidence runtime request.envelope.port (.after runtime operations)
        (.mutate (.bindCapabilities request) answers) :=
      ⟨request, answers, _, _, _, rfl, rfl, commits⟩
    exact .inr (.inl (.now rebinds ⟨_, configuration, stored, configured, rfl⟩))
  · left
    intro _
    simp only [stampPlan, PortRecord.settledWith, next]
    rfl

theorem Commits.follows {mutation : Mutation} {answers : MutationAnswers}
    {snapshot final : PortRecord} {plan : MutationPlan}
    (commits : Commits runtime mutation answers (.after runtime operations) snapshot plan final)
    (follows : snapshot.FollowsEvidence runtime operations mutation.port) :
    final.FollowsEvidence runtime (operations ++ [.mutate mutation answers]) mutation.port := by
  have stored : (EngineImpl.after runtime
      (operations ++ [.mutate mutation answers])).records[mutation.port]? = some final := by
    rw [EngineImpl.after, Runs.run_append]
    exact commits.stored_record
  obtain ⟨capability, proposal, applied, drift, evidence, proposed, consulted, validated, rfl, _⟩ :=
    commits.settlement
  obtain ⟨needed, configuration, configures⟩ | ⟨request, rfl, next⟩ | continues :=
    proposed.configures_or fun needed => (evidenceFor_ok consulted needed).1
  · obtain ⟨configured, named, required, same, kept, generation⟩ := configures
    have supported := validatePlan_supported validated required configured
    rw [same] at supported
    have settled : ((stampPlan mutation proposal).next.settledWith applied drift
        evidence).configuration = some configuration := configured
    exact follows.configure settled kept generation named supported
      (evidenceFor_ok consulted needed).2 _
  · exact follows_rebound commits stored next
  · exact follows.continue continues.settled stored

theorem PortRecord.uncertain_continues (record : PortRecord) (authority : AuthorityContext)
    (generation : PortConfigurationGeneration) (detail : Text) :
    record.Continues (record.uncertain runtime authority generation .outcomeUnknown detail) := by
  obtain ⟨_, _, _, _, same, _, fenced⟩ := record.uncertain_eq runtime authority generation detail
  rw [same]
  refine ⟨fun live => ?_, fun found configured => ⟨found, configured, rfl, rfl, fun _ => rfl⟩,
    rfl, rfl⟩
  simp only [fenced] at live
  split at live
  · cases live
  · exact live

theorem PortRecord.recovered_follows {state : PersistedState} {record : PortRecord}
    (member : record ∈ state.records) :
    record.recovered.FollowsEvidence runtime (operations ++ [.load (.ok state)]) record.port := by
  apply PortRecord.FollowsEvidence.of_idle
  · intro configured
    rw [PortRecord.recovered_configuration] at configured
    exact record.recovered_idle configured
  · obtain ⟨_, _, _, _, _, _, _, _, same⟩ := record.recovered_eq
    by_cases coherent : record.EvidenceCoherent
    · left
      rw [same]
      exact coherent
    · exact .inr ⟨state, by simp, record, member, rfl, coherent⟩

theorem boundRecord_follows (request : PortBindingRequest) (evidence : Option CapabilityBinding) :
    (boundRecord request evidence).FollowsEvidence runtime operations port := by
  apply PortRecord.FollowsEvidence.of_idle
  · intro configured
    cases configured
  · left
    intro present
    cases evidence with
    | none => cases present
    | some binding => rfl

/-- Whatever the operations, every record follows its evidence. -/
theorem after_follows (runtime : Runtime) (operations : List Operation) :
    OrderedMap.Every (fun port (record : PortRecord) =>
      record.FollowsEvidence runtime operations port)
      (EngineImpl.after runtime operations).records := by
  induction operations using List.reverseRecOn with
  | nil => exact OrderedMap.Every.empty
  | append_singleton operations operation ih =>
      intro port after stored
      have performed : EngineImpl.after runtime (operations ++ [operation]) =
          (EngineImpl.after runtime operations).perform runtime operation := by
        rw [EngineImpl.after, Runs.run_append]
        rfl
      rw [performed] at stored
      have step := record_step stored
      rw [← performed] at stored
      cases step with
      | kept found => exact (ih _ _ found).continue (.of_same rfl rfl rfl rfl) stored
      | bound evidence absent => exact boundRecord_follows ..
      | released _ _ found => exact (ih _ _ found).continue (.of_same rfl rfl rfl rfl) stored
      | committed commits => exact commits.follows (ih _ _ commits.toPlanned.snapshot_found)
      | doubted doubts =>
          exact (ih _ _ doubts.toPlanned.snapshot_found).continue
            (PortRecord.uncertain_continues ..) stored
      | recovered recovers member =>
          obtain rfl := recovers.read
          exact PortRecord.recovered_follows member

end Steps

/--
In every reachable state, the evidence bound to a live record supports its
configuration. The configuration names the generation of the evidence unless it
was rebound since, or the record comes from a container that did not name it.
-/
theorem configurations_follow_evidence (runtime : Runtime) (operations : List Operation) :
    OrderedMap.Every (fun port (record : PortRecord) =>
        record.Supported ∧ record.NamesEvidence runtime operations port)
      (EngineImpl.after runtime operations).records :=
  (after_follows runtime operations).imp fun _ _ follows => ⟨follows.supported, follows.named⟩

namespace ReboundEvidence

def envelope (attempt : MutationAttemptId) : MutationEnvelope :=
  Fixture.envelope "p1" "agent-a" "boot-a" attempt .first

/-- A later generation of evidence supports what the first one supported. -/
def operations : List Operation :=
  [ Fixture.bind "p1" "bind-1",
    .mutate (Fixture.claim (envelope "claim-1") "owner-a") Fixture.verified,
    .mutate (Fixture.configuration (envelope "configure-1")) Fixture.verified,
    .mutate
      (.bindCapabilities
        { envelope := envelope "evidence-2"
          binding := { Fixture.evidence with generation := .next .first } })
      Fixture.verified ]

set_option maxRecDepth 100000 in
/-- The configuration still names the generation it was validated against. -/
theorem former_generation_named :
    ¬OrderedMap.Every (fun _ (record : PortRecord) => ∀ configuration,
        record.lifecycle.isLive = true → record.configuration = some configuration →
          validateAgainstCapabilities configuration record.capability = .ok () ∧
            configuration.capabilityGeneration = record.generations.capability)
      (EngineImpl.after Fixture.runtime operations).records := by
  intro every
  have generations :
      (EngineImpl.after Fixture.runtime operations).records[("p1" : PortId)]?.map (fun record =>
        (record.lifecycle.isLive, record.configuration.map PortConfiguration.capabilityGeneration,
          record.generations.capability)) = some (true, some .first, .ofNat 2) := by
    decide +kernel
  obtain ⟨record, found, facts⟩ := Option.map_eq_some_iff.mp generations
  obtain ⟨live, named, bound⟩ : record.lifecycle.isLive = true ∧
      record.configuration.map PortConfiguration.capabilityGeneration = some .first ∧
        record.generations.capability = .ofNat 2 := by
    simpa only [Prod.mk.injEq] using facts
  obtain ⟨configuration, configured, first⟩ := Option.map_eq_some_iff.mp named
  have same := (every "p1" record found configuration live configured).2
  rw [first, bound] at same
  exact absurd same (by decide)

end ReboundEvidence

end PortFabric
