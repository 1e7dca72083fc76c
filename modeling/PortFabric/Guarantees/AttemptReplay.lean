import PortFabric.Engine.Fixture
import PortFabric.Engine.MutationProperties
import PortFabric.Engine.RecordSteps

/-!
# Attempt replay

A record remembers its last mutation only, so a repeated attempt is recognised
as long as nothing else was committed on the port since.
-/

set_option autoImplicit false

namespace PortFabric

open PortFabricEngine

section Commits

variable {runtime : Runtime} {mutation : Mutation} {answers : MutationAnswers} {impl : EngineImpl}
  {snapshot final : PortRecord} {plan : MutationPlan}

theorem Planned.attempt_valid (planned : Planned runtime mutation answers impl snapshot plan) :
    mutation.attempt.valid = true := by
  have valid := (EngineImpl.checkAuthority_ok planned.authorised).1
  simp only [AuthorityContext.valid, Bool.and_eq_true] at valid
  exact valid.2

theorem Commits.lastMutation (commits : Commits runtime mutation answers impl snapshot plan final) :
    final.lastMutation.attempt = mutation.attempt ∧
      final.lastMutation.payloadDigest = mutation.payloadDigest := by
  obtain ⟨_, _, _, _, _, _, _, rfl, _⟩ := commits.spec
  exact ⟨rfl, rfl⟩

theorem Commits.fresh (commits : Commits runtime mutation answers impl snapshot plan final) :
    snapshot.lastMutation.attempt ≠ mutation.attempt := by
  obtain ⟨proposal, applied, settled, committed, decided, stored, _⟩ := commits.stored
  obtain ⟨current, present, unanswered, _⟩ := EngineImpl.commitRecord_ok stored
  rw [commits.toPlanned.authorised_found] at present
  cases present
  intro same
  apply unanswered
  rw [same, (commits.toPlanned.proposal decided).2]
  exact ⟨commits.toPlanned.attempt_valid, rfl⟩

end Commits

/-- The attempt the record of the port remembers. -/
def EngineImpl.lastAttempt (impl : EngineImpl) (port : PortId) : Option MutationAttemptId :=
  (impl.records[port]?).map fun record => record.lastMutation.attempt

section Committed

variable (runtime : Runtime) (mutation : Mutation) (answers : MutationAnswers) (impl : EngineImpl)

/-- The mutation is committed. -/
def Committed : Prop :=
  ∃ snapshot plan final, Commits runtime mutation answers impl snapshot plan final

/-- A mutation is committed exactly when its port remembers another attempt afterwards. -/
theorem committed_iff :
    Committed runtime mutation answers impl ↔
      (executeMutation runtime mutation answers impl).1.lastAttempt mutation.port ≠
        impl.lastAttempt mutation.port := by
  constructor
  · intro given
    rcases given with ⟨snapshot, plan, final, commits⟩
    unfold EngineImpl.lastAttempt
    rw [commits.after_eq.1, OrderedMap.lookup_insert_self, commits.toPlanned.snapshot_found,
      Option.map_some, Option.map_some, commits.lastMutation.1]
    exact fun same => commits.fresh (Option.some.inj same).symm
  · intro changed
    have effect := executeMutation_records runtime mutation answers impl
    unfold EngineImpl.lastAttempt at changed
    generalize (executeMutation runtime mutation answers impl).1.records = after
      at effect changed
    cases effect with
    | unrecorded _ _ => exact absurd rfl changed
    | committed commits => exact ⟨_, _, _, commits⟩
    | doubted doubts =>
        apply absurd _ changed
        simp [doubts.toPlanned.snapshot_found]

instance : Decidable (Committed runtime mutation answers impl) :=
  decidable_of_iff _ (committed_iff runtime mutation answers impl).symm

end Committed

/--
The record already tells of this very uncertain apply, and the counters that a
second one would advance are exhausted.
-/
structure PortRecord.AlreadyDoubted (record : PortRecord) (runtime : Runtime)
    (authority : AuthorityContext) (generation : PortConfigurationGeneration) (detail : Text) :
    Prop where
  evidence : record.generations.evidence.exhaustible = true
  standing : record.lifecycle ≠ .retired ∧ record.lifecycle ≠ .superseded →
    record.lifecycle = .revalidationRequired ∧ record.generations.lifecycle.exhaustible = true
  applied : record.applied =
    { outcome := .outcomeUnknown, generation, verified := false,
      source := runtime.adapter.getD "adapter",
      evidenceGeneration := record.generations.evidence }
  drift : record.drift = .revalidationRequired
  reason : record.statusReason = "APPLY_OUTCOME_UNKNOWN"
  detail : record.statusDetail = detail
  kind : record.provenance.kind = .recovery
  epoch : record.provenance.epoch = authority.epoch
  attempt : record.provenance.attempt = authority.attempt

/-- An uncertain apply leaves a record alone only if the record tells of it already. -/
theorem PortRecord.uncertain_eq_self_iff {record : PortRecord} {runtime : Runtime}
    {authority : AuthorityContext} {generation : PortConfigurationGeneration} {detail : Text} :
    record.uncertain runtime authority generation .outcomeUnknown detail = record ↔
      record.AlreadyDoubted runtime authority generation detail := by
  constructor
  · intro same
    unfold uncertain at same
    simp only [if_true] at same
    by_cases alive : record.lifecycle ≠ .retired ∧ record.lifecycle ≠ .superseded
    · rw [if_pos alive] at same
      have evidence : record.generations.evidence.advance = record.generations.evidence :=
        congrArg (fun record => record.generations.evidence) same
      have lifecycle : record.generations.lifecycle.advance = record.generations.lifecycle :=
        congrArg (fun record => record.generations.lifecycle) same
      have applied := congrArg PortRecord.applied same
      have provenance := congrArg PortRecord.provenance same
      rw [evidence] at applied
      exact ⟨Generation.advance_eq_self_iff.mp evidence,
        fun _ => ⟨(congrArg PortRecord.lifecycle same).symm,
          Generation.advance_eq_self_iff.mp lifecycle⟩,
        applied.symm, (congrArg PortRecord.drift same).symm,
        (congrArg PortRecord.statusReason same).symm,
        (congrArg PortRecord.statusDetail same).symm,
        (congrArg Provenance.kind provenance).symm, (congrArg Provenance.epoch provenance).symm,
        (congrArg Provenance.attempt provenance).symm⟩
    · rw [if_neg alive] at same
      have evidence : record.generations.evidence.advance = record.generations.evidence :=
        congrArg (fun record => record.generations.evidence) same
      have applied := congrArg PortRecord.applied same
      have provenance := congrArg PortRecord.provenance same
      rw [evidence] at applied
      exact ⟨Generation.advance_eq_self_iff.mp evidence, fun fenced => absurd fenced alive,
        applied.symm, (congrArg PortRecord.drift same).symm,
        (congrArg PortRecord.statusReason same).symm,
        (congrArg PortRecord.statusDetail same).symm,
        (congrArg Provenance.kind provenance).symm, (congrArg Provenance.epoch provenance).symm,
        (congrArg Provenance.attempt provenance).symm⟩
  · intro doubted
    obtain ⟨evidence, standing, applied, drift, reason, detail, kind, epoch, attempt⟩ := doubted
    have evidence := Generation.advance_eq_self_iff.mpr evidence
    unfold uncertain
    simp only [if_true, evidence]
    rw [← applied, ← reason, ← drift, ← detail, ← kind, ← epoch, ← attempt]
    split
    · next alive =>
        obtain ⟨suspended, exhausted⟩ := standing alive
        have lifecycle := Generation.advance_eq_self_iff.mpr exhausted
        simp only [advanceLifecycleGeneration]
        rw [lifecycle, ← suspended]
    · rfl

/--
The mutation is turned down: a gate, an expectation or its builder refuses it in
this state, its adapter reports a failure, or the counter of the engine is
exhausted and the record tells of the doubt, if there is one, already.
-/
def TurnedDown (runtime : Runtime) (mutation : Mutation) (answers : MutationAnswers)
    (impl : EngineImpl) : Prop :=
  ∀ snapshot plan, Planned runtime mutation answers impl snapshot plan →
    adapterStatus runtime plan answers = some .failed ∨
      impl.generation.exhaustible = true ∧
        ∀ generation detail code reply,
          applyPlan runtime snapshot plan answers = .uncertain generation detail code reply →
            snapshot.AlreadyDoubted runtime mutation.authority generation detail

/-- The record of the port and the counter of the engine are what they were. -/
structure LeftAlone (before after : EngineImpl) (port : PortId) : Prop where
  record : after.records[port]? = before.records[port]?
  generation : after.generation = before.generation

section Repeats

variable {runtime : Runtime} {mutation : Mutation} {answers : MutationAnswers} {impl : EngineImpl}

/-- The adapter phase rejects the plan exactly when the adapter reports a failure. -/
theorem applyPlan_reject_iff {snapshot : PortRecord} {plan : MutationPlan} :
    (∃ reply, applyPlan runtime snapshot plan answers = .reject reply) ↔
      adapterStatus runtime plan answers = some .failed := by
  unfold applyPlan adapterStatus
  cases plan.requiresApply with
  | false => simp
  | true =>
      by_cases desired : runtime.config.adapterPolicy = .desiredStateOnly
      · simp [desired]
      · cases runtime.adapter with
        | none => simp [desired, settlePlan]
        | some label =>
            cases answers.apply.status with
            | applied =>
                by_cases verifies : runtime.config.adapterPolicy = .applyAndVerify
                · cases readback : answers.readback.status <;>
                    simp [verifies, verifyApplied, readback, settlePlan]
                · simp [desired, verifies, settlePlan]
            | unsupported => simp [desired, settlePlan]
            | failed => simp [desired]
            | outcomeUnknown => simp [desired]

theorem leftAlone_of_unrecorded
    (uncommitted : ∀ snapshot plan final,
      ¬Commits runtime mutation answers impl snapshot plan final)
    (undoubted : ∀ snapshot plan generation detail,
      ¬Doubts runtime mutation answers impl snapshot plan generation detail) :
    LeftAlone impl (executeMutation runtime mutation answers impl).1 mutation.port := by
  have effect := executeMutation_effect runtime mutation answers impl
  generalize (executeMutation runtime mutation answers impl).1 = after at effect ⊢
  cases effect with
  | unrecorded _ _ frame =>
      rcases frame with rfl | rfl
      · exact ⟨rfl, rfl⟩
      · exact ⟨by rw [EngineImpl.authorised_records], EngineImpl.authorised_generation⟩
  | committed commits => exact absurd commits (uncommitted _ _ _)
  | doubted doubts => exact absurd doubts (undoubted _ _ _ _)

theorem TurnedDown.leftAlone (refused : TurnedDown runtime mutation answers impl) :
    LeftAlone impl (executeMutation runtime mutation answers impl).1 mutation.port := by
  have uncommitted (snapshot : PortRecord) (plan : MutationPlan) (final : PortRecord) :
      ¬Commits runtime mutation answers impl snapshot plan final := by
    intro commits
    obtain ⟨proposal, applied, settled, committed, decided, stored, _⟩ := commits.stored
    rcases refused snapshot plan commits.toPlanned with failed | ⟨full, _⟩
    · obtain ⟨reply, rejected⟩ := applyPlan_reject_iff.mpr failed
      rw [decided] at rejected
      cases rejected
    · obtain ⟨_, _, _, _, _, room, _⟩ := EngineImpl.commitRecord_ok stored
      rw [EngineImpl.authorised_generation, full] at room
      cases room
  by_cases doubtful : ∃ snapshot plan generation detail,
      Doubts runtime mutation answers impl snapshot plan generation detail
  · obtain ⟨snapshot, plan, generation, detail, doubts⟩ := doubtful
    obtain ⟨code, reply, decided⟩ := doubts.doubted
    rcases refused snapshot plan doubts.toPlanned with failed | ⟨full, told⟩
    · obtain ⟨reply, rejected⟩ := applyPlan_reject_iff.mpr failed
      rw [decided] at rejected
      cases rejected
    · have same := PortRecord.uncertain_eq_self_iff.mpr (told _ _ _ _ decided)
      constructor
      · rw [doubts.after_eq, OrderedMap.lookup_insert_self, doubts.toPlanned.snapshot_found, same]
      · rw [doubts.after_generation, ← Generation.advance_eq_next]
        exact Generation.advance_eq_self_iff.mpr full
  · simp only [not_exists] at doubtful
    exact leftAlone_of_unrecorded uncommitted doubtful

/-- A mutation that touches nothing is turned down, if the port forgot its attempt. -/
theorem turnedDown_of_leftAlone
    (alone : LeftAlone impl (executeMutation runtime mutation answers impl).1 mutation.port)
    (forgotten : impl.lastAttempt mutation.port ≠ some mutation.attempt) :
    TurnedDown runtime mutation answers impl := by
  intro snapshot plan planned
  have found := planned.snapshot_found
  cases decided : applyPlan runtime snapshot plan answers with
  | reject reply => exact .inl (applyPlan_reject_iff.mp ⟨reply, decided⟩)
  | commit proposal applied settled =>
      refine .inr ⟨?_, fun _ _ _ _ doubted => by cases doubted⟩
      obtain ⟨expected, attempt⟩ := planned.proposal decided
      have other : snapshot.lastMutation.attempt ≠ mutation.attempt := by
        intro same
        apply forgotten
        rw [EngineImpl.lastAttempt, found, Option.map_some, same]
      by_contra room
      have stored : (impl.authorised runtime mutation).commitRecord mutation.port proposal applied
          settled = .ok ((impl.authorised runtime mutation).replaceRecord mutation.port snapshot
            (EngineImpl.committedRecord proposal applied settled)) := by
        apply EngineImpl.commitRecord_of_capture
        · exact planned.authorised_found
        · exact fun answered => other (answered.2.trans attempt)
        · exact expected
        · exact fun retired =>
            absurd retired (observe_ok (planMutation_ok planned.planned).1).2.1
        · rw [EngineImpl.authorised_generation]
          simpa using room
      have commits : Committed runtime mutation answers impl :=
        ⟨snapshot, plan, _, planned, proposal, applied, settled, _, decided, stored, rfl⟩
      apply (committed_iff runtime mutation answers impl).mp commits
      rw [EngineImpl.lastAttempt, alone.record, EngineImpl.lastAttempt]
  | uncertain generation detail code reply =>
      have doubts : Doubts runtime mutation answers impl snapshot plan generation detail :=
        ⟨planned, code, reply, decided⟩
      have record := alone.record
      have counted := alone.generation
      rw [doubts.after_eq, OrderedMap.lookup_insert_self, found] at record
      rw [doubts.after_generation, ← Generation.advance_eq_next] at counted
      refine .inr ⟨Generation.advance_eq_self_iff.mp counted, fun _ _ _ _ again => ?_⟩
      cases again
      exact PortRecord.uncertain_eq_self_iff.mp (Option.some.inj record)

/-- The port remembers the attempt: its repetition is answered before anything is planned. -/
theorem leftAlone_of_remembered {record : PortRecord}
    (found : impl.records[mutation.port]? = some record)
    (remembered : record.lastMutation.attempt = mutation.attempt)
    (digested : record.lastMutation.payloadDigest ≠ 0) :
    LeftAlone impl (executeMutation runtime mutation answers impl).1 mutation.port := by
  apply TurnedDown.leftAlone
  intro snapshot plan planned
  obtain ⟨present, _, fresh⟩ := observe_ok (planMutation_ok planned.planned).1
  rw [found] at present
  cases present
  apply absurd _ fresh
  refine ⟨?_, remembered⟩
  simp only [LastMutationRecord.valid, remembered, planned.attempt_valid, digested, ne_eq,
    not_false_eq_true, decide_true, Bool.and_self]

/-- A binding of a bound port answers and changes nothing. -/
theorem bindPort_of_bound {request : PortBindingRequest}
    (bound : (impl.records[request.port]?).isSome = true) :
    (bindPort runtime impl request answers).1 = impl := by
  obtain ⟨existing, found⟩ := Option.isSome_iff_exists.mp bound
  unfold bindPort
  split
  · rfl
  · simp only [insertBinding, found]

end Repeats

/-- Every record remembers a payload, so every remembered attempt answers its repetition. -/
def EngineImpl.Digested (impl : EngineImpl) : Prop :=
  OrderedMap.Every (fun _ record => record.lastMutation.payloadDigest ≠ 0) impl.records

theorem EngineImpl.Digested.perform {runtime : Runtime} {impl : EngineImpl}
    (digested : impl.Digested) {operation : Operation} (unloaded : operation.isLoad = false) :
    (impl.perform runtime operation).Digested := by
  unfold EngineImpl.Digested at digested ⊢
  by_cases pipeline : ∃ mutation answers, operation = .mutate mutation answers
  · obtain ⟨mutation, answers, rfl⟩ := pipeline
    rw [EngineImpl.perform]
    have effect := executeMutation_records runtime mutation answers impl
    generalize (executeMutation runtime mutation answers impl).1.records = after at effect ⊢
    cases effect with
    | unrecorded _ _ => exact digested
    | committed commits =>
        apply digested.insert
        rw [commits.lastMutation.2]
        exact payloadDigestOf_ne_zero _
    | doubted doubts =>
        apply digested.insert
        rw [PortRecord.uncertain_lastMutation]
        exact digested _ _ doubts.toPlanned.snapshot_found
  · have outside (mutation : Mutation) (answers : MutationAnswers) :
        operation ≠ .mutate mutation answers :=
      fun same => pipeline ⟨mutation, answers, same⟩
    have effect : RecordsEffect operation impl.records (impl.perform runtime operation).records :=
      perform_records outside unloaded
    generalize (impl.perform runtime operation).records = records at effect ⊢
    cases effect with
    | unchanged => exact digested
    | bound _ _ _ _ => exact digested.insert (payloadDigestOf_ne_zero _)
    | released _ _ =>
        intro port record found
        rw [OrderedMap.lookup_map] at found
        obtain ⟨source, present, rfl⟩ := Option.map_eq_some_iff.mp found
        split
        · exact digested port source present
        · exact digested port source present

/-- The attempt that the operation carries, and the port that it is for. -/
def Operation.attempt? : Operation → Option (PortId × MutationAttemptId)
  | .bindPort request _ => some (request.port, request.attempt)
  | .mutate mutation _ => some (mutation.port, mutation.attempt)
  | _ => none

/-- The mutation is committed, or the binding leaves a record that was not there. -/
def CommitsAttempt (runtime : Runtime) (impl : EngineImpl) : Operation → Prop
  | .bindPort request answers =>
      impl.records[request.port]? = none ∧
        ((bindPort runtime impl request answers).1.records[request.port]?).isSome = true
  | .mutate mutation answers => Committed runtime mutation answers impl
  | _ => False

instance (runtime : Runtime) (impl : EngineImpl) (operation : Operation) :
    Decidable (CommitsAttempt runtime impl operation) := by
  cases operation <;> unfold CommitsAttempt <;> infer_instance

/-- An engine with the attempts committed on each port so far. -/
structure AttemptHistory where
  engine : EngineImpl
  committed : List (PortId × MutationAttemptId) := []

namespace AttemptHistory

def step (runtime : Runtime) (history : AttemptHistory) (operation : Operation) :
    AttemptHistory where
  engine := history.engine.perform runtime operation
  committed :=
    if CommitsAttempt runtime history.engine operation then
      operation.attempt?.toList ++ history.committed
    else history.committed

/-- No attempt is committed twice on one port. -/
def AtMostOnce (history : AttemptHistory) : Prop := history.committed.Nodup

/-- A request whose attempt is committed on its port changes no field and advances no counter. -/
def RepeatsNothing (runtime : Runtime) (history : AttemptHistory) (operation : Operation) : Prop :=
  ∀ port attempt, operation.attempt? = some (port, attempt) →
    (port, attempt) ∈ history.committed →
    LeftAlone history.engine (history.engine.perform runtime operation) port

/--
A mutation whose attempt is committed on its port finds it remembered there as
the last one, or is turned down.
-/
def RepeatsRefused (runtime : Runtime) (history : AttemptHistory) (operation : Operation) : Prop :=
  ∀ mutation answers, operation = .mutate mutation answers →
    (mutation.port, mutation.attempt) ∈ history.committed →
    history.engine.lastAttempt mutation.port = some mutation.attempt ∨
      TurnedDown runtime mutation answers history.engine

/-- The records can answer replays, and a port on which something was committed has one. -/
structure Recorded (history : AttemptHistory) : Prop where
  digested : history.engine.Digested
  bound : ∀ port attempt, (port, attempt) ∈ history.committed →
    (history.engine.records[port]?).isSome = true

variable {runtime : Runtime} {history : AttemptHistory} {operation : Operation}

theorem Recorded.step (recorded : history.Recorded) (unloaded : operation.isLoad = false) :
    (history.step runtime operation).Recorded := by
  refine ⟨recorded.digested.perform unloaded, fun port attempt member => ?_⟩
  simp only [AttemptHistory.step] at member ⊢
  split at member
  · next commits =>
      rcases List.mem_append.mp member with fresh | earlier
      · rw [Option.mem_toList] at fresh
        cases operation with
        | bindPort request answers =>
            cases fresh
            exact commits.2
        | mutate mutation answers =>
            cases fresh
            obtain ⟨snapshot, plan, final, committed⟩ := commits
            exact record_stays rfl (by rw [committed.toPlanned.snapshot_found]; rfl)
        | _ => cases fresh
      · exact record_stays unloaded (recorded.bound port attempt earlier)
  · exact record_stays unloaded (recorded.bound port attempt member)

theorem repeatsNothing_iff (recorded : history.Recorded) :
    history.RepeatsNothing runtime operation ↔ history.RepeatsRefused runtime operation := by
  constructor
  · intro nothing mutation answers requested committed
    subst requested
    have alone := nothing mutation.port mutation.attempt rfl committed
    by_cases remembered : history.engine.lastAttempt mutation.port = some mutation.attempt
    · exact .inl remembered
    · exact .inr (turnedDown_of_leftAlone alone remembered)
  · intro refused port attempt carried committed
    cases operation with
    | bindPort request answers =>
        cases carried
        rw [EngineImpl.perform, bindPort_of_bound (recorded.bound _ _ committed)]
        exact ⟨rfl, rfl⟩
    | mutate mutation answers =>
        cases carried
        obtain remembered | declined := refused mutation answers rfl committed
        · obtain ⟨record, found, same⟩ := Option.map_eq_some_iff.mp remembered
          exact leftAlone_of_remembered found same (recorded.digested _ record found)
        · exact declined.leftAlone
    | _ => cases carried

/-- A step that repeats nothing commits no attempt again. -/
theorem AtMostOnce.step (once : history.AtMostOnce) (recorded : history.Recorded)
    (nothing : history.RepeatsNothing runtime operation) :
    (history.step runtime operation).AtMostOnce := by
  simp only [AtMostOnce, AttemptHistory.step]
  split
  · next commits =>
      cases operation with
      | bindPort request answers =>
          refine List.nodup_cons.mpr ⟨fun again => ?_, once⟩
          have bound := recorded.bound _ _ again
          rw [commits.1] at bound
          cases bound
      | mutate mutation answers =>
          refine List.nodup_cons.mpr ⟨fun again => ?_, once⟩
          have alone := nothing mutation.port mutation.attempt rfl again
          have committed : Committed runtime mutation answers history.engine := commits
          apply (committed_iff runtime mutation answers history.engine).mp committed
          unfold EngineImpl.lastAttempt
          exact congrArg (Option.map _) alone.record
      | _ => exact once
  · exact once

end AttemptHistory

/--
In every run of a fresh engine without a load, no attempt is committed twice on
a port and a repeated attempt changes nothing, exactly when every mutation that
repeats one finds it remembered as the last one of its port or is turned down.
-/
theorem committed_once_iff (runtime : Runtime) {operations : List Operation}
    (unloaded : ∀ operation ∈ operations, operation.isLoad = false) :
    Runs.Throughout (AttemptHistory.step runtime) AttemptHistory.AtMostOnce
          { engine := .initial runtime.config } operations ∧
        Runs.Along (AttemptHistory.step runtime) (AttemptHistory.RepeatsNothing runtime)
          { engine := .initial runtime.config } operations ↔
      Runs.Along (AttemptHistory.step runtime) (AttemptHistory.RepeatsRefused runtime)
        { engine := .initial runtime.config } operations := by
  have supported (history : AttemptHistory) (operation : Operation)
      (recorded : history.Recorded) (unloaded : operation.isLoad = false) :
      (history.step runtime operation).Recorded := recorded.step unloaded
  have initially : ({ engine := .initial runtime.config } : AttemptHistory).Recorded :=
    ⟨OrderedMap.Every.empty, fun _ _ member => by cases member⟩
  have exactly :
      Runs.Along (AttemptHistory.step runtime) (AttemptHistory.RepeatsNothing runtime)
          { engine := .initial runtime.config } operations ↔
        Runs.Along (AttemptHistory.step runtime) (AttemptHistory.RepeatsRefused runtime)
          { engine := .initial runtime.config } operations :=
    Runs.along_congr supported (fun _ _ recorded => AttemptHistory.repeatsNothing_iff recorded)
      initially unloaded
  constructor
  · exact fun once => exactly.mp once.2
  · intro refused
    have nothing := exactly.mpr refused
    have kept (history : AttemptHistory) (operation : Operation)
        (held : history.Recorded ∧ history.AtMostOnce)
        (given : history.RepeatsNothing runtime operation ∧ operation.isLoad = false) :
        (history.step runtime operation).Recorded ∧
          (history.step runtime operation).AtMostOnce :=
      ⟨held.1.step given.2, held.2.step held.1 given.1⟩
    have throughout := Runs.throughout_along kept ⟨initially, List.nodup_nil⟩
      (nothing.and (Runs.along_of_forall unloaded))
    exact ⟨throughout.imp fun _ held => held.2, nothing⟩

namespace ResubmittedDrift

def port : PortId := "syn-sw1-p01"

def drift (attempt : MutationAttemptId) (observed : DriftState) : Operation :=
  .mutate
    (.observeExternalState
      { envelope := Fixture.envelope port "agent-a" "boot-a" attempt .first, observed }) {}

/-- An observation is submitted again after another one was committed. -/
def operations : List Operation :=
  [Fixture.bind port "bind-1", drift "drift-1" .drifted, drift "drift-2" .inSync,
    drift "drift-1" .drifted]

set_option maxRecDepth 100000 in
/-- The resubmitted observation is committed a second time. -/
theorem committed_twice :
    ¬(Runs.Throughout (AttemptHistory.step Fixture.runtime) AttemptHistory.AtMostOnce
          { engine := .initial Fixture.runtime.config } operations ∧
        Runs.Along (AttemptHistory.step Fixture.runtime)
          (AttemptHistory.RepeatsNothing Fixture.runtime)
          { engine := .initial Fixture.runtime.config } operations) := by
  intro given
  rcases given with ⟨once, _⟩
  have repeated : ¬(Runs.run (AttemptHistory.step Fixture.runtime)
      { engine := .initial Fixture.runtime.config } operations).committed.Nodup := by
    decide +kernel
  exact repeated once.last

/-- The exact condition for this run. -/
theorem operations_iff :
    Runs.Throughout (AttemptHistory.step Fixture.runtime) AttemptHistory.AtMostOnce
          { engine := .initial Fixture.runtime.config } operations ∧
        Runs.Along (AttemptHistory.step Fixture.runtime)
          (AttemptHistory.RepeatsNothing Fixture.runtime)
          { engine := .initial Fixture.runtime.config } operations ↔
      Runs.Along (AttemptHistory.step Fixture.runtime)
        (AttemptHistory.RepeatsRefused Fixture.runtime)
        { engine := .initial Fixture.runtime.config } operations :=
  committed_once_iff Fixture.runtime (by decide)

end ResubmittedDrift

end PortFabric
