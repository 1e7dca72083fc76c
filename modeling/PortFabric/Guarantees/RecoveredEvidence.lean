import PortFabric.Engine.Fixture
import PortFabric.Engine.RecordInvariants

/-!
# Recovered evidence

A recovery takes the verified flag from evidence that was applied or verified.
Other outcomes keep the flag, so evidence that carries it under such an outcome
counts as current after a restart.
-/

set_option autoImplicit false

namespace PortFabric

open PortFabricEngine

/-- The evidence of every record can be downgraded. -/
def EngineImpl.Downgradable (impl : EngineImpl) : Prop :=
  OrderedMap.Every (fun _ record => record.applied.Downgradable) impl.records

/-- No evidence is verified or current. -/
def EngineImpl.NothingCurrent (impl : EngineImpl) : Prop :=
  OrderedMap.Every
    (fun _ record => record.applied.verified = false ∧
      ∀ generation, record.applied.currentFor generation = false)
    impl.records

/-- Saved and loaded into any engine that accepts the container, nothing is current. -/
def RecoversNothingCurrent (runtime : Runtime) (impl : EngineImpl) : Prop :=
  ∀ (loader : Runtime) (loading : EngineImpl),
    (load loader loading (.ok (impl.gatherState runtime.config))).2.accepted = true →
      (load loader loading (.ok (impl.gatherState runtime.config))).1.NothingCurrent

/--
The request sets the verified flag, or keeps it, only with an outcome that says
the configuration was applied.
-/
def Mutation.DeclaresHonestly (snapshot : PortRecord) : Mutation → Prop
  | .recordAppliedEvidence request => request.evidence.Downgradable
  | .observeExternalState request =>
      request.observed = .inSync →
        snapshot.applied.outcome = .applied ∨ snapshot.applied.outcome = .verified
  | _ => True

/-- The operation commits and recovers no evidence that a recovery would not downgrade. -/
def KeepsDowngradable (runtime : Runtime) (impl : EngineImpl) : Operation → Prop
  | .mutate mutation answers =>
      ∀ snapshot plan final, Commits runtime mutation answers impl snapshot plan final →
        mutation.DeclaresHonestly snapshot
  | .load container =>
      ∀ state, Recovers runtime impl container state →
        OrderedMap.Every (fun _ record => record.applied.Downgradable)
          (restoreRecords ∅ state.records).1
  | _ => True

section Records

variable {record : PortRecord}

theorem AppliedEvidence.nothingCurrent_iff {evidence : AppliedEvidence} :
    (evidence.verified = false ∧ ∀ generation, evidence.currentFor generation = false) ↔
      evidence.verified = false := by
  constructor
  · exact fun nothing => nothing.1
  · intro unverified
    exact ⟨unverified, fun generation => by simp [currentFor, unverified]⟩

theorem downgradable_invariant :
    RecordInvariant fun _ record => record.applied.Downgradable where
  bound := by
    intro request evidence verified
    cases verified
  released := fun _ _ _ _ kept => kept
  uncertain := by
    intro port record runtime authority generation detail _ verified
    rw [PortRecord.uncertain_unverified] at verified
    cases verified

end Records

section Commits

variable {runtime : Runtime} {impl : EngineImpl} {mutation : Mutation} {answers : MutationAnswers}
  {snapshot final : PortRecord} {plan : MutationPlan}

theorem Mutation.declaresHonestly_of_kind (evidence : mutation.kind ≠ .recordAppliedEvidence)
    (observation : mutation.kind ≠ .observeExternalState) :
    mutation.DeclaresHonestly snapshot := by
  cases mutation with
  | recordAppliedEvidence request => exact absurd rfl evidence
  | observeExternalState request => exact absurd rfl observation
  | _ => trivial

/-- What a commit leaves can be downgraded exactly when its request declares evidence honestly. -/
theorem Commits.downgradable_iff (before : snapshot.applied.Downgradable)
    (commits : Commits runtime mutation answers impl snapshot plan final) :
    final.applied.Downgradable ↔ mutation.DeclaresHonestly snapshot := by
  obtain ⟨capability, proposal, applied, drift, evidence, proposed, _, _, rfl, settlement⟩ :=
    commits.settlement
  change applied.Downgradable ↔ _
  have settled (required : proposal.requiresApply = true) : applied.Downgradable :=
    fun verified => .inr ((settlement.decided required).verified verified)
  cases proposed with
  | configured requested _ _ _ planned =>
      subst requested planned
      exact iff_of_true (settled rfl) trivial
  | replaced requested _ _ _ _ planned =>
      subst planned
      refine iff_of_true (settled rfl) (Mutation.declaresHonestly_of_kind ?_ ?_)
      · rcases requested with same | same <;> simp [same]
      · rcases requested with same | same <;> simp [same]
  | administered requested _ _ _ _ next =>
      subst requested
      refine iff_of_true ?_ trivial
      by_cases required : proposal.requiresApply = true
      · exact settled required
      · rw [(settlement.unapplied (by simpa using required)).1, next]
        exact before
  | @rebound request requested unapplied next =>
      subst requested
      refine iff_of_true ?_ trivial
      obtain ⟨_, _, _, _, _, same, _⟩ :=
        (snapshot.withEvidence request.binding).reexamined_eq request.binding
      rw [(settlement.unapplied unapplied).1, next, same]
      exact before
  | reconciled requested _ _ _ planned =>
      subst requested planned
      exact iff_of_true (settled rfl) trivial
  | @fenced lifecycle reason detail retire requested unapplied _ _ next =>
      refine iff_of_true ?_ (Mutation.declaresHonestly_of_kind ?_ ?_)
      · obtain ⟨_, _, same⟩ := (snapshot.fenced lifecycle reason detail).disowned_eq retire
        rw [(settlement.unapplied unapplied).1, next]
        dsimp only
        rw [same]
        intro verified
        cases verified
      · split at requested <;> simp [requested]
      · split at requested <;> simp [requested]
  | reowned requested unapplied next =>
      refine iff_of_true ?_ (Mutation.declaresHonestly_of_kind ?_ ?_)
      · rw [(settlement.unapplied unapplied).1, next]
        exact before
      · rcases requested with same | same | same <;> simp [same]
      · rcases requested with same | same | same <;> simp [same]
  | @evidenced request requested unapplied _ _ next =>
      subst requested
      obtain ⟨_, same⟩ := snapshot.evidenced_applied request.evidence
      rw [(settlement.unapplied unapplied).1, next, same]
      exact Iff.rfl
  | @observed request requested unapplied next =>
      subst requested
      rw [(settlement.unapplied unapplied).1, next, PortRecord.drifted_applied]
      by_cases synchronised : request.observed = .inSync
      · rw [if_pos synchronised]
        constructor
        · exact fun downgradable _ => downgradable rfl
        · exact fun honest _ => honest synchronised
      · rw [if_neg synchronised]
        exact iff_of_true before fun observed => absurd observed synchronised

end Commits

section Restart

variable {runtime loader : Runtime} {impl loading : EngineImpl}

theorem load_saved_lookup (keyed : OrderedMap.Every (fun port record => record.port = port)
      impl.records)
    (accepted : (load loader loading (.ok (impl.gatherState runtime.config))).2.accepted = true)
    (port : PortId) :
    (load loader loading (.ok (impl.gatherState runtime.config))).1.records[port]? =
      impl.records[port]?.map PortRecord.recovered := by
  rw [load_records_lookup accepted, ← OrderedMap.find?_values keyed port]
  rfl

/-- A saved state recovers with nothing current exactly when its evidence can be downgraded. -/
theorem load_saved_iff (keyed : OrderedMap.Every (fun port record => record.port = port)
      impl.records)
    (accepted : (load loader loading (.ok (impl.gatherState runtime.config))).2.accepted = true) :
    (load loader loading (.ok (impl.gatherState runtime.config))).1.NothingCurrent ↔
      impl.Downgradable := by
  have lookup := load_saved_lookup keyed accepted
  constructor
  · intro nothing port record found
    have restored := lookup port
    rw [found, Option.map_some] at restored
    exact PortRecord.recovered_unverified_iff.mp (nothing port _ restored).1
  · intro downgradable port restored found
    rw [lookup] at found
    obtain ⟨record, present, rfl⟩ := Option.map_eq_some_iff.mp found
    exact AppliedEvidence.nothingCurrent_iff.mpr
      (PortRecord.recovered_unverified_iff.mpr (downgradable port record present))

theorem perform_downgradable_iff (downgradable : impl.Downgradable) (operation : Operation) :
    (impl.perform runtime operation).Downgradable ↔ KeepsDowngradable runtime impl operation := by
  unfold EngineImpl.Downgradable at downgradable ⊢
  rw [perform_every_iff downgradable_invariant downgradable]
  cases operation with
  | mutate mutation answers =>
      refine forall_congr' fun snapshot => forall_congr' fun plan => forall_congr' fun final =>
        forall_congr' fun commits => ?_
      exact commits.downgradable_iff (downgradable _ _ commits.toPlanned.snapshot_found)
  | load container => exact Iff.rfl
  | _ => exact Iff.rfl

theorem after_downgradable {operations : List Operation}
    (along : Runs.Along (EngineImpl.perform runtime) (KeepsDowngradable runtime)
      (.initial runtime.config) operations) :
    (EngineImpl.after runtime operations).Downgradable := by
  have initially : (EngineImpl.initial runtime.config).Downgradable := OrderedMap.Every.empty
  unfold EngineImpl.after
  generalize EngineImpl.initial runtime.config = start at along initially ⊢
  induction operations generalizing start with
  | nil => exact initially
  | cons operation rest ih =>
      exact ih _ along.2 ((perform_downgradable_iff initially operation).mpr along.1)

end Restart

/--
Along a run whose operations commit and recover only evidence that a recovery
downgrades, every state recovers with nothing current. A reachable state does so
exactly when each of its records can be downgraded.
-/
theorem recovers_nothing_current_iff (runtime : Runtime) (operations : List Operation) :
    (Runs.Along (EngineImpl.perform runtime) (KeepsDowngradable runtime)
        (.initial runtime.config) operations →
      RecoversNothingCurrent runtime (.after runtime operations)) ∧
    ∀ (loader : Runtime) (loading : EngineImpl),
      (load loader loading
        (.ok ((EngineImpl.after runtime operations).gatherState runtime.config))).2.accepted =
          true →
      ((load loader loading
          (.ok ((EngineImpl.after runtime operations).gatherState runtime.config))
          ).1.NothingCurrent ↔
        (EngineImpl.after runtime operations).Downgradable) := by
  have keyed := after_keyed runtime operations
  refine ⟨fun along loader loading accepted => ?_, fun loader loading accepted =>
    load_saved_iff keyed accepted⟩
  exact (load_saved_iff keyed accepted).mpr (after_downgradable along)

namespace ObservedConfiguration

/-- The fixture with a container path of its own. -/
def runtime : Runtime where
  config := { Fixture.engineConfig "coordinator" "ports.pf" .first with persistence := .manual }
  capabilityProvider := true
  adapter := some "test-synthetic"

def port : PortId := "syn-sw1-p01"

def envelope (attempt : MutationAttemptId) : MutationEnvelope :=
  Fixture.envelope port "agent-a" "boot-a" attempt .first

/-- The first configuration of a claimed port. -/
def configuredBy (answers : MutationAnswers) : List Operation :=
  [ Fixture.bind port "bind-1",
    .mutate (Fixture.claim (envelope "claim-1") "owner-a") answers,
    .mutate (Fixture.configuration (envelope "configure-1")) answers ]

/-- Verified evidence does not survive the restart. -/
theorem verified_recovers_nothing_current :
    RecoversNothingCurrent runtime (.after runtime (configuredBy Fixture.verified)) :=
  (recovers_nothing_current_iff runtime (configuredBy Fixture.verified)).1
    ⟨trivial, fun _ _ _ _ => trivial, fun _ _ _ _ => trivial, trivial⟩

/-- The adapter does not support the apply; a later observation finds the port in sync. -/
def operations : List Operation :=
  configuredBy { provider := Fixture.provider, apply := { status := .unsupported } } ++
    [ .mutate (.observeExternalState { envelope := envelope "observe-1", observed := .inSync })
      { provider := Fixture.provider } ]

def container : PersistedState := (EngineImpl.after runtime operations).gatherState runtime.config

set_option maxRecDepth 100000 in
/-- The observed evidence is current for its generation after the restart. -/
theorem observed_recovers_current :
    ¬RecoversNothingCurrent runtime (.after runtime operations) := by
  intro recovers
  have loaded : (load runtime (.initial runtime.config) (.ok container)).2.accepted = true ∧
      ((load runtime (.initial runtime.config) (.ok container)).1.records[port]?).map
        (fun record => record.applied.verified) = some true := by
    decide +kernel
  unfold container at loaded
  obtain ⟨accepted, current⟩ := loaded
  obtain ⟨record, found, verified⟩ := Option.map_eq_some_iff.mp current
  have unverified := (recovers runtime (.initial runtime.config) accepted port record found).1
  rw [unverified] at verified
  cases verified

end ObservedConfiguration

end PortFabric
