import PortFabric.Engine.Fixture
import PortFabric.Engine.GenerationProperties

/-!
# Administrative table

The table of administrative changes is never consulted: an administrative
operation follows the lifecycle table, which takes a live port from any of its
states to any other.
-/

set_option autoImplicit false

namespace PortFabric

open PortFabricEngine

/-- Every committed administrative state that changed was permitted to change so. -/
def EngineImpl.FollowsTable (before after : EngineImpl) : Prop :=
  ∀ (port : PortId) (former latter : PortRecord) (source target : AdministrativeState),
    before.records[port]? = some former → after.records[port]? = some latter →
      former.administrative? = some source → latter.administrative? = some target →
        source ≠ target → administrativeTransitionAllowed source target = true

/-- The changes that the table leaves out. -/
inductive LeavesOut : AdministrativeState → AdministrativeState → Prop where
  | uncommitted {target : AdministrativeState} (trusted : target ≠ .revalidationRequired) :
      LeavesOut .unknown target
  | forgotten (source : AdministrativeState) : LeavesOut source .unknown
  | drainedDisabled : LeavesOut .disabled .draining
  | drainedUntrusted : LeavesOut .revalidationRequired .draining
  | maintainedUntrusted : LeavesOut .revalidationRequired .maintenance
  | illegalSource {source target : AdministrativeState} (illegal : source.isValid = false) :
      LeavesOut source target
  | illegalTarget {source target : AdministrativeState} (illegal : target.isValid = false) :
      LeavesOut source target

/-- The administrative state that the mutation asks for. -/
def Mutation.asksFor : Mutation → Option AdministrativeState
  | .configure request =>
      some
        (if request.configuration.administrative = .unknown then .enabled
          else request.configuration.administrative)
  | .administrative request => some (administrativeTarget request.op)
  | _ => none

/-- The mutation asks for no change that the table leaves out. -/
def Mutation.AsksForeseen (snapshot : PortRecord) (mutation : Mutation) : Prop :=
  ∀ source target, snapshot.administrative? = some source → mutation.asksFor = some target →
    source ≠ target → ¬LeavesOut source target

/-- A mutation that the operation commits asks for a change of the table. -/
def AsksForeseen (runtime : Runtime) (impl : EngineImpl) : Operation → Prop
  | .mutate mutation answers =>
      ∀ snapshot plan final, Commits runtime mutation answers impl snapshot plan final →
        mutation.AsksForeseen snapshot
  | _ => True

theorem administrativeTransitionAllowed_iff {source target : AdministrativeState}
    (changed : source ≠ target) :
    administrativeTransitionAllowed source target = true ↔ ¬LeavesOut source target := by
  constructor
  · intro allowed left
    cases left with
    | uncommitted trusted =>
        revert allowed changed trusted
        cases target <;> simp [administrativeTransitionAllowed, AdministrativeState.isValid]
    | forgotten =>
        revert allowed changed
        cases source <;> simp [administrativeTransitionAllowed, AdministrativeState.isValid]
    | drainedDisabled | drainedUntrusted | maintainedUntrusted => cases allowed
    | illegalSource illegal | illegalTarget illegal =>
        simp [administrativeTransitionAllowed, illegal] at allowed
  · intro kept
    by_contra refused
    apply kept
    cases valid : source.isValid with
    | false => exact .illegalSource valid
    | true =>
        cases legal : target.isValid with
        | false => exact .illegalTarget legal
        | true =>
            revert changed refused valid legal
            cases source <;> cases target <;>
              simp [administrativeTransitionAllowed, AdministrativeState.isValid] <;>
              constructor <;> simp

section Commits

variable {runtime : Runtime} {impl : EngineImpl} {mutation : Mutation} {answers : MutationAnswers}
  {snapshot final : PortRecord} {plan : MutationPlan}

theorem Mutation.asksFor_of_kind (configure : mutation.kind ≠ .configure)
    (administrative : mutation.kind ≠ .administrative) : mutation.asksFor = none := by
  cases mutation with
  | configure request => exact absurd rfl configure
  | administrative request => exact absurd rfl administrative
  | _ => rfl

/-- A plan proposes the administrative state that its mutation asks for, or keeps it. -/
theorem Proposal.administrative_eq {input : MutationBuildInput}
    (proposed : Proposal mutation input plan) :
    plan.next.administrative? = mutation.asksFor.or input.current.administrative? := by
  have kept (configure : mutation.kind ≠ .configure)
      (administrative : mutation.kind ≠ .administrative)
      (same : plan.next.administrative? = input.current.administrative?) :
      plan.next.administrative? = mutation.asksFor.or input.current.administrative? := by
    rw [Mutation.asksFor_of_kind configure administrative, same]
    rfl
  by_cases reports : writesConfiguration mutation.kind = false
  · have reported := proposed.reported reports
    refine kept ?_ ?_ ?_
    · intro same
      rw [same] at reports
      cases reports
    · intro same
      rw [same] at reports
      cases reports
    · rw [PortRecord.administrative?, reported.configuration]
      rfl
  cases proposed with
  | configured requested _ _ administrative planned =>
      rw [requested, planned]
      exact congrArg some administrative
  | replaced requested present _ _ administrative planned =>
      refine kept ?_ ?_ ?_
      · rcases requested with same | same <;> simp [same]
      · rcases requested with same | same <;> simp [same]
      · rw [planned, PortRecord.administrative?, PortRecord.administrative?, present]
        exact congrArg some administrative
  | administered requested _ _ _ _ next =>
      rw [requested, next]
      rfl
  | reconciled requested present _ administrative planned =>
      subst requested
      refine kept ?_ ?_ ?_
      · intro same
        cases same
      · intro same
        cases same
      · rw [planned, PortRecord.administrative?, PortRecord.administrative?, present]
        exact congrArg some administrative
  | rebound requested | evidenced requested | observed requested =>
      subst requested
      exact absurd rfl reports
  | @fenced _ _ _ retire requested =>
      cases retire <;> exact absurd (requested ▸ rfl) reports
  | reowned requested =>
      rcases requested with same | same | same <;> exact absurd (same ▸ rfl) reports

theorem Commits.administrative_eq
    (commits : Commits runtime mutation answers impl snapshot plan final) :
    final.administrative? = mutation.asksFor.or snapshot.administrative? := by
  obtain ⟨_, _, _, _, _, proposed, _, _, rfl, _⟩ := commits.settlement
  exact proposed.administrative_eq

/-- A commit changes the administrative state as the table permits or as it was asked to. -/
theorem Commits.permitted_iff
    (commits : Commits runtime mutation answers impl snapshot plan final) :
    (∀ source target, snapshot.administrative? = some source →
        final.administrative? = some target → source ≠ target →
          administrativeTransitionAllowed source target = true) ↔
      mutation.AsksForeseen snapshot := by
  rw [commits.administrative_eq]
  constructor
  · intro permitted source target found asked changed
    rw [← administrativeTransitionAllowed_iff changed]
    exact permitted source target found (by rw [asked]; rfl) changed
  · intro foreseen source target found committed changed
    rw [administrativeTransitionAllowed_iff changed]
    cases asked : mutation.asksFor with
    | none =>
        rw [asked, Option.none_or, found] at committed
        exact absurd (Option.some.inj committed) changed
    | some other =>
        rw [asked, Option.some_or] at committed
        cases committed
        exact foreseen source _ found asked changed

end Commits

/-- An operation other than a load follows the table exactly when it asks for what it permits. -/
theorem perform_followsTable_iff {runtime : Runtime} {impl : EngineImpl} {operation : Operation}
    (unloaded : operation.isLoad = false) :
    impl.FollowsTable (impl.perform runtime operation) ↔ AsksForeseen runtime impl operation := by
  constructor
  · intro follows
    cases operation with
    | mutate mutation answers =>
        intro snapshot plan final commits
        rw [← commits.permitted_iff]
        exact fun source target => follows _ _ _ source target commits.toPlanned.snapshot_found
          commits.stored_record
    | _ => trivial
  · intro foreseen port former latter source target found stored was became changed
    have same : former.administrative? = latter.administrative? → False := by
      intro same
      rw [was, became] at same
      exact changed (Option.some.inj same)
    cases record_step stored with
    | kept again =>
        cases found.symm.trans again
        exact (same rfl).elim
    | released reason detail again =>
        cases found.symm.trans again
        exact (same rfl).elim
    | bound _ absent => cases found.symm.trans absent
    | committed commits =>
        cases found.symm.trans commits.toPlanned.snapshot_found
        exact commits.permitted_iff.mpr (foreseen _ _ _ commits) source target was became changed
    | doubted doubts =>
        cases found.symm.trans doubts.toPlanned.snapshot_found
        obtain ⟨_, _, _, _, uncertain, _⟩ :=
          former.uncertain_eq runtime _ _ _
        rw [uncertain] at same
        exact (same rfl).elim
    | recovered _ _ => simp [Operation.isLoad] at unloaded

/--
Along a run, from any engine, every change of a committed administrative state
is one that the table permits exactly when no committed mutation of the run asks
for a change that the table leaves out.
-/
theorem table_followed_along_iff (runtime : Runtime) (impl : EngineImpl)
    (operations : List Operation) :
    Runs.Along (EngineImpl.perform runtime)
        (fun impl operation => operation.isLoad = false →
          impl.FollowsTable (impl.perform runtime operation)) impl operations ↔
      Runs.Along (EngineImpl.perform runtime) (AsksForeseen runtime) impl operations := by
  have always (impl : EngineImpl) (operation : Operation) (_ : True) (_ : True) : True := trivial
  refine Runs.along_congr always (fun impl operation _ => ?_) trivial fun _ _ => trivial
  constructor
  · intro follows
    cases operation with
    | load container => trivial
    | _ => exact (perform_followsTable_iff rfl).mp (follows rfl)
  · exact fun foreseen unloaded => (perform_followsTable_iff unloaded).mpr foreseen

namespace DrainedDisabled

def port : PortId := "syn-sw1-p01"

def envelope (attempt : MutationAttemptId) : MutationEnvelope :=
  Fixture.envelope port "agent-a" "boot-a" attempt .first

def operations : List Operation :=
  [ Fixture.bind port "bind-1",
    .mutate (Fixture.claim (envelope "claim-1") "agent-a") Fixture.verified,
    .mutate (Fixture.configuration (envelope "configure-1")) Fixture.verified,
    .mutate (Fixture.administer (envelope "disable-1") .disable) Fixture.verified ]

def drain : Operation :=
  .mutate (Fixture.administer (envelope "drain-1") .drain) Fixture.verified

set_option maxRecDepth 100000 in
/-- A disabled port is drained, which the table does not permit. -/
theorem disabled_port_drained :
    ¬(EngineImpl.after Fixture.runtime operations).FollowsTable
      ((EngineImpl.after Fixture.runtime operations).perform Fixture.runtime drain) := by
  intro follows
  have outcome : ((EngineImpl.after Fixture.runtime operations).records[port]?).map
        PortRecord.administrative? = some (some .disabled) ∧
      (((EngineImpl.after Fixture.runtime operations).perform Fixture.runtime
        drain).records[port]?).map PortRecord.administrative? = some (some .draining) := by
    decide +kernel
  obtain ⟨former, latter⟩ := outcome
  obtain ⟨before, found, disabled⟩ := Option.map_eq_some_iff.mp former
  obtain ⟨after, stored, draining⟩ := Option.map_eq_some_iff.mp latter
  have allowed := follows port before after _ _ found stored disabled draining (by decide)
  cases allowed

end DrainedDisabled

end PortFabric
