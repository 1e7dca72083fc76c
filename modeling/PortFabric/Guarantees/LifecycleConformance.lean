import PortFabric.Engine.Fixture
import PortFabric.Engine.RecordSteps

/-!
# Lifecycle conformance

The builders assign lifecycle states of their own. Every change they make is a
transition of the table, apart from those of three situations.
-/

set_option autoImplicit false

namespace PortFabric

open PortFabricEngine

/-- A transition of the table leads from one state to the other. -/
def PortLifecycle.Reaches (before after : PortLifecycle) : Prop :=
  ∃ transition, (evaluateTransition before transition).allowed = true ∧
    (evaluateTransition before transition).result = after

/-- Every record that changes its lifecycle takes a transition of the table. -/
def LifecycleConforms (before after : EngineImpl) : Prop :=
  ∀ (port : PortId) (former latter : PortRecord), before.records[port]? = some former →
    after.records[port]? = some latter → former.lifecycle ≠ latter.lifecycle →
      former.lifecycle.Reaches latter.lifecycle

/--
The mutation reconciles an active port, or binds evidence that rejects the
configuration of a superseded or conflicted one.
-/
def Mutation.Oversteps (snapshot : PortRecord) : Mutation → Prop
  | .reconcile _ => snapshot.lifecycle = .active
  | .bindCapabilities request =>
      (snapshot.lifecycle = .superseded ∨ snapshot.lifecycle = .conflicted) ∧
        ∃ configuration, snapshot.configuration = some configuration ∧
          validateAgainstCapabilities configuration request.binding ≠ .ok ()
  | _ => False

/--
No mutation oversteps the table when it commits, none leaves the apply to a
conflicted port uncertain, and a recovery replaces records in line with it.
-/
def StaysInTable (runtime : Runtime) (impl : EngineImpl) : Operation → Prop
  | .mutate mutation answers =>
      (∀ snapshot plan final, Commits runtime mutation answers impl snapshot plan final →
        ¬mutation.Oversteps snapshot) ∧
      ∀ snapshot plan generation detail,
        Doubts runtime mutation answers impl snapshot plan generation detail →
          snapshot.lifecycle ≠ .conflicted
  | .load container => ∀ state port former record, Recovers runtime impl container state →
      impl.records[port]? = some former →
      state.recoverable.find? (fun record => record.port = port) = some record →
      former.lifecycle ≠ record.recovered.lifecycle →
        former.lifecycle.Reaches record.recovered.lifecycle
  | _ => True

namespace PortLifecycle

/-- Activity ends in the configured state through no transition, and retirement not at all. -/
theorem reaches_configured_iff {lifecycle : PortLifecycle} (other : lifecycle ≠ .configured) :
    lifecycle.Reaches .configured ↔ lifecycle ≠ .active ∧ lifecycle ≠ .retired := by
  constructor
  · intro given
    rcases given with ⟨transition, allowed, result⟩
    revert allowed result
    cases lifecycle <;> cases transition <;> decide
  · intro given
    rcases given with ⟨inactive, unretired⟩
    cases lifecycle with
    | unconfigured => exact ⟨.configure, rfl, rfl⟩
    | configured => exact absurd rfl other
    | active => exact absurd rfl inactive
    | adminDisabled => exact ⟨.adminEnable, rfl, rfl⟩
    | draining => exact ⟨.exitMaintenance, rfl, rfl⟩
    | maintenance => exact ⟨.exitMaintenance, rfl, rfl⟩
    | revalidationRequired => exact ⟨.reconcile, rfl, rfl⟩
    | superseded => exact ⟨.reconcile, rfl, rfl⟩
    | retired => exact absurd rfl unretired
    | conflicted => exact ⟨.reconcile, rfl, rfl⟩

/-- Revalidation can be required of a port that is not fenced in another way. -/
theorem reaches_revalidationRequired_iff {lifecycle : PortLifecycle} :
    lifecycle.Reaches .revalidationRequired ↔
      lifecycle ≠ .superseded ∧ lifecycle ≠ .conflicted ∧ lifecycle ≠ .retired := by
  constructor
  · intro given
    rcases given with ⟨transition, allowed, result⟩
    revert allowed result
    cases lifecycle <;> cases transition <;> decide
  · intro given
    rcases given with ⟨current, agreed, unretired⟩
    refine ⟨.requireRevalidation, ?_⟩
    cases lifecycle <;> simp_all [evaluateTransition, TransitionEvaluation.allow, isLive]

theorem reaches_of_live {lifecycle : PortLifecycle} (live : lifecycle.isLive = true) :
    lifecycle.Reaches .revalidationRequired := by
  rw [reaches_revalidationRequired_iff]
  cases lifecycle <;> simp_all [isLive]

end PortLifecycle

section Steps

variable {runtime : Runtime} {impl : EngineImpl}

theorem Proposal.reaches {mutation : Mutation} {input : MutationBuildInput} {plan : MutationPlan}
    (proposed : Proposal mutation input plan) (inside : ¬mutation.Oversteps input.current)
    (terminal : input.current.lifecycle = .retired → plan.next.lifecycle = .retired)
    (changed : input.current.lifecycle ≠ plan.next.lifecycle) :
    input.current.lifecycle.Reaches plan.next.lifecycle := by
  have unretired : input.current.lifecycle ≠ .retired := fun retired =>
    changed (retired.trans (terminal retired).symm)
  cases proposed with
  | configured _ unconfigured _ _ planned =>
      rw [unconfigured, planned]
      exact ⟨.configure, rfl, rfl⟩
  | replaced _ _ _ _ _ planned =>
      rw [planned] at changed
      exact absurd rfl changed
  | administered _ _ _ allowed _ next =>
      rw [next]
      exact ⟨_, allowed, rfl⟩
  | @rebound request requested _ next =>
      subst requested
      rw [next] at changed ⊢
      obtain ⟨_, _, _, _, _, same, judged⟩ :=
        (input.current.withEvidence request.binding).reexamined_eq request.binding
      rw [same] at changed ⊢
      obtain ⟨fenced, rejected⟩ | ⟨kept, _⟩ := judged
      · rw [fenced]
        refine PortLifecycle.reaches_revalidationRequired_iff.mpr ⟨?_, ?_, unretired⟩
        · exact fun superseded => inside ⟨.inl superseded, rejected⟩
        · exact fun conflicted => inside ⟨.inr conflicted, rejected⟩
      · exact absurd kept.symm changed
  | reconciled requested _ _ _ planned =>
      subst requested
      rw [planned] at changed ⊢
      exact (PortLifecycle.reaches_configured_iff changed).mpr ⟨inside, unretired⟩
  | @fenced lifecycle reason detail retire _ _ allowed result next =>
      obtain ⟨_, _, same⟩ := (input.current.fenced lifecycle reason detail).disowned_eq retire
      rw [next]
      dsimp only
      rw [same]
      exact ⟨_, allowed, result.symm⟩
  | reowned _ _ next =>
      rw [next] at changed
      exact absurd rfl changed
  | @evidenced request _ _ _ _ next =>
      rw [next] at changed ⊢
      obtain ⟨_, _, _, _, _, _, _, same, judged⟩ := input.current.evidenced_eq request.evidence
      rw [same] at changed ⊢
      obtain kept | ⟨live, fenced⟩ := judged
      · exact absurd kept.symm changed
      · rw [fenced]
        exact PortLifecycle.reaches_of_live live
  | @observed request _ _ next =>
      rw [next] at changed ⊢
      obtain ⟨_, _, _, _, _, same, judged⟩ :=
        input.current.drifted_eq request.observed request.detail
      rw [same] at changed ⊢
      obtain kept | ⟨live, fenced⟩ | ⟨allowed, conflicted⟩ := judged
      · exact absurd kept.symm changed
      · rw [fenced]
        exact PortLifecycle.reaches_of_live live
      · rw [conflicted]
        exact ⟨_, allowed, rfl⟩

/-- A commit that does not overstep takes a transition of the table, if any. -/
theorem Commits.reaches {mutation : Mutation} {answers : MutationAnswers}
    {snapshot final : PortRecord} {plan : MutationPlan}
    (commits : Commits runtime mutation answers impl snapshot plan final)
    (inside : ¬mutation.Oversteps snapshot) (changed : snapshot.lifecycle ≠ final.lifecycle) :
    snapshot.lifecycle.Reaches final.lifecycle := by
  have terminal := commits.retired
  obtain ⟨capability, proposal, applied, drift, evidence, proposed, _, _, rfl, _⟩ :=
    commits.settlement
  exact proposed.reaches inside terminal changed

private theorem rebound_lifecycle {request : CapabilityRequest} {input : MutationBuildInput}
    {plan : MutationPlan} (built : buildBindCapabilities input request = .ok plan)
    {configuration : PortConfiguration}
    (configured : input.current.configuration = some configuration)
    (rejected : validateAgainstCapabilities configuration request.binding ≠ .ok ()) :
    plan.next.lifecycle = .revalidationRequired := by
  obtain ⟨_, _, _, next⟩ := buildBindCapabilities_ok built
  obtain ⟨_, _, _, _, _, same, judged⟩ :=
    (input.current.withEvidence request.binding).reexamined_eq request.binding
  rw [next, same]
  obtain ⟨fenced, _⟩ | ⟨_, supported⟩ := judged
  · exact fenced
  · exact absurd (supported configuration configured) rejected

theorem Commits.not_reaches {mutation : Mutation} {answers : MutationAnswers}
    {snapshot final : PortRecord} {plan : MutationPlan}
    (commits : Commits runtime mutation answers impl snapshot plan final)
    (oversteps : mutation.Oversteps snapshot) :
    snapshot.lifecycle ≠ final.lifecycle ∧ ¬snapshot.lifecycle.Reaches final.lifecycle := by
  obtain ⟨capability, proposal, applied, drift, evidence, built, _, rfl, _⟩ := commits.spec
  cases mutation with
  | reconcile request =>
      have active : snapshot.lifecycle = .active := oversteps
      have planned : proposal.next.lifecycle = .configured := by
        obtain ⟨_, _, _, _, _, next, _⟩ := buildReconcile_ok built
        rw [next]
        rfl
      have configured : ((stampPlan (.reconcile request) proposal).next.settledWith applied drift
          evidence).lifecycle = .configured := planned
      rw [configured, active]
      refine ⟨by decide, fun reached => ?_⟩
      exact ((PortLifecycle.reaches_configured_iff (by decide)).mp reached).1 rfl
  | bindCapabilities request =>
      obtain ⟨fenced, configuration, configured, rejected⟩ := oversteps
      have planned : proposal.next.lifecycle = .revalidationRequired :=
        rebound_lifecycle built configured rejected
      have required : ((stampPlan (.bindCapabilities request) proposal).next.settledWith applied
          drift evidence).lifecycle = .revalidationRequired := planned
      rw [required]
      rcases fenced with fenced | fenced
      · rw [fenced]
        refine ⟨by decide, fun reached => ?_⟩
        exact (PortLifecycle.reaches_revalidationRequired_iff.mp reached).1 rfl
      · rw [fenced]
        refine ⟨by decide, fun reached => ?_⟩
        exact (PortLifecycle.reaches_revalidationRequired_iff.mp reached).2.1 rfl
  | _ => exact oversteps.elim

theorem PortRecord.uncertain_reaches (record : PortRecord) (authority : AuthorityContext)
    (generation : PortConfigurationGeneration) (detail : Text)
    (agreed : record.lifecycle ≠ .conflicted)
    (changed : record.lifecycle ≠
      (record.uncertain runtime authority generation .outcomeUnknown detail).lifecycle) :
    record.lifecycle.Reaches
      (record.uncertain runtime authority generation .outcomeUnknown detail).lifecycle := by
  rw [uncertain_lifecycle] at changed ⊢
  split at changed
  · next current =>
      rw [if_pos current]
      exact PortLifecycle.reaches_revalidationRequired_iff.mpr ⟨current.2, agreed, current.1⟩
  · exact absurd rfl changed

theorem mutate_conforms_iff (mutation : Mutation) (answers : MutationAnswers) :
    LifecycleConforms impl (impl.perform runtime (.mutate mutation answers)) ↔
      StaysInTable runtime impl (.mutate mutation answers) := by
  constructor
  · intro conforms
    constructor
    · intro snapshot plan final commits oversteps
      obtain ⟨changed, unreached⟩ := commits.not_reaches oversteps
      exact unreached
        (conforms _ _ _ commits.toPlanned.snapshot_found commits.stored_record changed)
    · intro snapshot plan generation detail doubts conflicted
      have reached := conforms _ _ _ doubts.toPlanned.snapshot_found doubts.stored_record
      rw [PortRecord.uncertain_lifecycle, conflicted] at reached
      have required := reached (by decide)
      exact (PortLifecycle.reaches_revalidationRequired_iff.mp required).2.1 rfl
  · intro given port former latter found stored changed
    rcases given with ⟨inside, agreed⟩
    cases record_step stored with
    | kept again =>
        cases found.symm.trans again
        exact absurd rfl changed
    | released _ _ again =>
        cases found.symm.trans again
        exact absurd rfl changed
    | committed commits =>
        cases found.symm.trans commits.toPlanned.snapshot_found
        exact commits.reaches (inside _ _ _ commits) changed
    | doubted doubts =>
        cases found.symm.trans doubts.toPlanned.snapshot_found
        exact former.uncertain_reaches _ _ _ (agreed _ _ _ _ doubts) changed

theorem load_conforms_iff (container : Except Outcome PersistedState) :
    LifecycleConforms impl (impl.perform runtime (.load container)) ↔
      StaysInTable runtime impl (.load container) := by
  obtain ⟨unread, _, same⟩ | ⟨state, recovers, loaded⟩ := load_effect runtime impl container
  · refine iff_of_true ?_ fun state _ _ _ recovers => absurd recovers (unread state)
    intro port former latter found stored changed
    rw [EngineImpl.perform, same] at stored
    cases found.symm.trans stored
    exact absurd rfl changed
  · have lookup (port : PortId) :
        (impl.perform runtime (.load container)).records[port]? =
          (state.recoverable.find? fun record => record.port = port).map PortRecord.recovered := by
      rw [EngineImpl.perform, loaded.records, restoreRecords_prefix_lookup]
      simp [PersistedState.recoverable]
    constructor
    · intro conforms other port former record again found member changed
      obtain rfl : state = other := Except.ok.inj (recovers.read.symm.trans again.read)
      exact conforms port former record.recovered found (by rw [lookup, member]; rfl) changed
    · intro inside port former latter found stored changed
      rw [lookup] at stored
      obtain ⟨record, member, rfl⟩ := Option.map_eq_some_iff.mp stored
      exact inside state port former record recovers found member changed

/-- Binding, releasing and the registries keep the lifecycle of every record there was. -/
private theorem other_conforms {operation : Operation}
    (unplanned : ∀ mutation answers, operation ≠ .mutate mutation answers)
    (unloaded : ∀ container, operation ≠ .load container) :
    LifecycleConforms impl (impl.perform runtime operation) := by
  intro port former latter found stored changed
  cases record_step stored with
  | kept again =>
      cases found.symm.trans again
      exact absurd rfl changed
  | released _ _ again =>
      cases found.symm.trans again
      exact absurd rfl changed
  | bound _ absent => cases found.symm.trans absent
  | committed _ => exact absurd rfl (unplanned _ _)
  | doubted _ => exact absurd rfl (unplanned _ _)
  | recovered _ _ => exact absurd rfl (unloaded _)

/-- An operation conforms to the table exactly when it stays in it. -/
theorem perform_conforms_iff (operation : Operation) :
    LifecycleConforms impl (impl.perform runtime operation) ↔
      StaysInTable runtime impl operation := by
  cases operation with
  | mutate mutation answers => exact mutate_conforms_iff mutation answers
  | load container => exact load_conforms_iff container
  | bindPort | defineProfile | beginEpoch | registerPublisher | fencePublisher | registerDevice
  | setTopologyGeneration | save | shutdown =>
      exact iff_of_true (other_conforms (by simp) (by simp)) trivial

end Steps

/--
The lifecycle changes along a run, from any engine, are transitions of the table
exactly when every operation stays in it.
-/
theorem lifecycle_conforms_iff (runtime : Runtime) (impl : EngineImpl)
    (operations : List Operation) :
    Runs.Along (EngineImpl.perform runtime)
        (fun impl operation => LifecycleConforms impl (impl.perform runtime operation)) impl
        operations ↔
      Runs.Along (EngineImpl.perform runtime) (StaysInTable runtime) impl operations := by
  have always (impl : EngineImpl) (operation : Operation) (_ : True) (_ : True) : True := trivial
  exact Runs.along_congr always (fun _ operation _ => perform_conforms_iff operation) trivial
    fun _ _ => trivial

namespace ReconciledActive

def envelope (attempt : MutationAttemptId) : MutationEnvelope :=
  Fixture.envelope "p1" "agent-a" "boot-a" attempt .first

/-- A configured port is enabled, and then the topology advances. -/
def activated : List Operation :=
  [ Fixture.bind "p1" "bind-1",
    .mutate (Fixture.claim (envelope "claim-1") "owner-a") Fixture.verified,
    .mutate (Fixture.configuration (envelope "configure-1")) Fixture.verified,
    .mutate (Fixture.administer (envelope "enable-1") .enable) Fixture.verified,
    .setTopologyGeneration (.next .first) ]

def reconcile : Operation :=
  .mutate (.reconcile { envelope := Fixture.expecting (envelope "reconcile-1") .first })
    Fixture.verified

def before : EngineImpl := .after Fixture.runtime activated

set_option maxRecDepth 100000 in
/-- Rebinding the port to the topology takes it from active back to configured. -/
theorem active_reconciled :
    ¬LifecycleConforms before (before.perform Fixture.runtime reconcile) := by
  intro conforms
  have lifecycles :
      (before.records[("p1" : PortId)]?.map PortRecord.lifecycle,
        (before.perform Fixture.runtime reconcile).records[("p1" : PortId)]?.map
          PortRecord.lifecycle) = (some .active, some .configured) := by
    decide +kernel
  obtain ⟨first, second⟩ := Prod.mk.inj lifecycles
  obtain ⟨former, found, active⟩ := Option.map_eq_some_iff.mp first
  obtain ⟨latter, stored, configured⟩ := Option.map_eq_some_iff.mp second
  have reached := conforms "p1" former latter found stored
  rw [active, configured] at reached
  exact ((PortLifecycle.reaches_configured_iff (by decide)).mp (reached (by decide))).1 rfl

end ReconciledActive

end PortFabric
