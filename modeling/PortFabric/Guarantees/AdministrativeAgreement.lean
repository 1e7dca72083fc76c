import PortFabric.Engine.Fixture
import PortFabric.Engine.RecordInvariants

/-!
# Administrative agreement

The administrative operations change the configuration and the lifecycle
together. A first configuration and a reconciliation set the lifecycle alone,
whatever the administrative state of the configuration they commit.
-/

set_option autoImplicit false

namespace PortFabric

/-- The configuration has the administrative state the lifecycle implies. -/
def PortRecord.AdministrationAgrees (record : PortRecord) : Prop :=
  ∀ configuration, record.configuration = some configuration →
    configuration.administrative = administrativeStateOf record.lifecycle

/-- The administrative state and the lifecycle of every live record agree. -/
def EngineImpl.AdministrationAgrees (impl : EngineImpl) : Prop :=
  OrderedMap.Every (fun _ record => record.WhileLive PortRecord.AdministrationAgrees) impl.records

/--
The mutation does not set the lifecycle to configured beside a configuration
that is not enabled. An unknown administrative state of a first configuration
stands for enabled.
-/
def Mutation.CommitsEnabled (snapshot : PortRecord) : Mutation → Prop
  | .configure request =>
      request.configuration.administrative = .unknown ∨
        request.configuration.administrative = .enabled
  | .reconcile _ =>
      ∀ committed, snapshot.configuration = some committed → committed.administrative = .enabled
  | _ => True

/-- What the operation commits agrees with the lifecycle it sets. -/
def KeepsAgreement (runtime : Runtime) (impl : EngineImpl) : Operation → Prop
  | .mutate mutation answers =>
      ∀ snapshot plan final, Commits runtime mutation answers impl snapshot plan final →
        mutation.CommitsEnabled snapshot
  | _ => True

section Commits

variable {runtime : Runtime} {impl : EngineImpl} {mutation : Mutation} {answers : MutationAnswers}
  {snapshot final : PortRecord} {plan : MutationPlan}

/-- The lifecycle transition of an administrative operation leads where its target implies. -/
theorem administrativeTarget_agrees {current : PortLifecycle} {op : AdministrativeOp}
    (allowed : (evaluateTransition current (lifecycleTransitionFor op)).allowed = true)
    (live : (evaluateTransition current (lifecycleTransitionFor op)).result.isLive = true) :
    administrativeTarget op =
      administrativeStateOf (evaluateTransition current (lifecycleTransitionFor op)).result := by
  cases op <;> revert allowed live <;> cases current <;>
    simp [lifecycleTransitionFor, evaluateTransition, administrativeTarget, administrativeStateOf,
      TransitionEvaluation.allow, TransitionEvaluation.reject, PortLifecycle.isLive]

theorem Mutation.commitsEnabled_of_kind (configure : mutation.kind ≠ .configure)
    (reconcile : mutation.kind ≠ .reconcile) : mutation.CommitsEnabled snapshot := by
  cases mutation with
  | configure request => exact absurd rfl configure
  | reconcile request => exact absurd rfl reconcile
  | _ => trivial

/-- What a plan proposes agrees exactly when its mutation commits an enabled configuration. -/
theorem Proposal.agrees_iff {input : MutationBuildInput}
    (agrees : input.current.WhileLive PortRecord.AdministrationAgrees)
    (proposed : Proposal mutation input plan) :
    plan.next.WhileLive PortRecord.AdministrationAgrees ↔
      mutation.CommitsEnabled input.current := by
  by_cases reports : writesConfiguration mutation.kind = false
  · have reported := proposed.reported reports
    refine iff_of_true ?_ (Mutation.commitsEnabled_of_kind ?_ ?_)
    · intro live committed present
      rw [reported.lifecycle live]
      rw [reported.configuration] at present
      exact agrees (reported.live live) committed present
    · intro same
      rw [same] at reports
      cases reports
    · intro same
      rw [same] at reports
      cases reports
  cases proposed with
  | @configured request configuration requested _ _ administrative planned =>
      subst requested planned
      have agreement : (configurationPlan input (input.current.configured configuration)
            configuration).next.WhileLive PortRecord.AdministrationAgrees ↔
          configuration.administrative = .enabled :=
        ⟨fun kept => kept rfl configuration rfl, fun enabled _ _ same =>
          Option.some.inj same ▸ enabled⟩
      rw [agreement, administrative]
      by_cases unknown : request.configuration.administrative = .unknown
      · simp [Mutation.CommitsEnabled, unknown]
      · simp [Mutation.CommitsEnabled, unknown]
  | @replaced committed configuration target _ requested present _ _ administrative planned =>
      subst planned
      refine iff_of_true ?_ (Mutation.commitsEnabled_of_kind ?_ ?_)
      · intro live _ same
        cases same
        exact administrative.trans (agrees live committed present)
      · rcases requested with same | same <;> simp [same]
      · rcases requested with same | same <;> simp [same]
  | @administered request committed requested _ _ allowed _ next =>
      subst requested
      refine iff_of_true ?_ trivial
      rw [next]
      intro live _ same
      cases same
      exact administrativeTarget_agrees allowed live
  | @reconciled _ committed configuration _ requested present _ administrative planned =>
      subst requested planned
      constructor
      · intro kept other same
        obtain rfl : committed = other := Option.some.inj (present.symm.trans same)
        have enabled := kept rfl _ rfl
        exact administrative.symm.trans enabled
      · intro enabled _ _ same
        cases same
        exact administrative.trans (enabled committed present)
  | rebound requested | evidenced requested | observed requested =>
      subst requested
      exact absurd rfl reports
  | @fenced _ _ _ retire requested =>
      cases retire <;> exact absurd (requested ▸ rfl) reports
  | reowned requested =>
      rcases requested with same | same | same <;> exact absurd (same ▸ rfl) reports

theorem Commits.agrees_iff (agrees : snapshot.WhileLive PortRecord.AdministrationAgrees)
    (commits : Commits runtime mutation answers impl snapshot plan final) :
    final.WhileLive PortRecord.AdministrationAgrees ↔ mutation.CommitsEnabled snapshot := by
  obtain ⟨_, _, _, _, _, proposed, _, _, rfl, _⟩ := commits.settlement
  exact proposed.agrees_iff agrees

end Commits

/--
Lifecycle and administrative state agree throughout a run exactly when every
first configuration and every reconciliation in it commits an enabled
configuration.
-/
theorem administration_agrees_throughout_iff (runtime : Runtime) (operations : List Operation) :
    Runs.Throughout (EngineImpl.perform runtime) EngineImpl.AdministrationAgrees
        (.initial runtime.config) operations ↔
      Runs.Along (EngineImpl.perform runtime) (KeepsAgreement runtime) (.initial runtime.config)
        operations := by
  apply every_throughout_iff_along (whileLive_invariant fun _ _ _ agrees => agrees)
  intro impl operation agrees
  cases operation with
  | mutate mutation answers =>
      refine forall_congr' fun snapshot => forall_congr' fun plan => forall_congr' fun final =>
        forall_congr' fun commits => ?_
      exact commits.agrees_iff (agrees _ _ commits.toPlanned.snapshot_found)
  | load container => exact iff_of_true (fun state _ => restored_whileLive state.records) trivial
  | _ => exact Iff.rfl

namespace DisabledConfiguration

def port : PortId := "syn-sw1-p01"

/-- A first configuration that is to be administratively disabled. -/
def request : ConfigureRequest where
  envelope := Fixture.envelope port "agent-a" "boot-a" "configure-1" .first
  configuration := { Fixture.makeConfiguration port with administrative := .disabled }

def operations : List Operation :=
  [Fixture.bind port "bind-1", .mutate (.configure request) Fixture.verified]

set_option maxRecDepth 100000 in
/-- The port is configured and live, and its configuration is disabled. -/
theorem configured_disabled :
    ¬(EngineImpl.after Fixture.runtime operations).AdministrationAgrees := by
  have stored : ((EngineImpl.after Fixture.runtime operations).records[port]?).map
      (fun record => (record.lifecycle,
        record.configuration.map PortConfiguration.administrative)) =
        some (.configured, some .disabled) := by
    decide +kernel
  intro agrees
  obtain ⟨record, found, observed⟩ := Option.map_eq_some_iff.mp stored
  obtain ⟨configured, disabled⟩ := Prod.mk.inj observed
  obtain ⟨configuration, present, administrative⟩ := Option.map_eq_some_iff.mp disabled
  have enabled := agrees port record found (by rw [configured]; rfl) configuration present
  rw [administrative, configured] at enabled
  cases enabled

end DisabledConfiguration

end PortFabric
