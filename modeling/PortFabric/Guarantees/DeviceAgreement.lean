import PortFabric.Engine.Fixture
import PortFabric.Engine.RecordInvariants
import PortFabric.Engine.SyntheticLoopProperties
import PortFabric.Guarantees.AttemptReplay

/-!
# Device agreement

In the synthetic loop the engine knows what its devices hold: a live port whose
evidence says that its configuration was verified has that configuration on its
device, whatever faults come and go.
-/

set_option autoImplicit false

namespace PortFabric

open Checks LockPrograms

/-- Verified evidence of a live port is about the configuration that its device holds. -/
def SyntheticLoop.DevicesAgree (loop : SyntheticLoop) : Prop :=
  ∀ port record, loop.engine.records[port]? = some record → record.lifecycle.isLive = true →
    record.applied.outcome = .verified →
      ∃ configuration, record.configuration = some configuration ∧
        loop.backend.held port = some configuration

/-- The mutation reports evidence that its configuration was verified. -/
def Mutation.claimsVerified : Mutation → Bool
  | .recordAppliedEvidence request => request.evidence.outcome = .verified
  | _ => false

def SyntheticEvent.mutation? : SyntheticEvent → Option Mutation
  | .operate (.mutate mutation _) => some mutation
  | _ => none

/--
The engine can still count a commit, and who reports that a configuration was
verified has seen the committed configuration on the device.
-/
def SyntheticLoop.Truthful (loop : SyntheticLoop) (event : SyntheticEvent) : Prop :=
  ∀ mutation ∈ event.mutation?,
    loop.engine.generation.exhaustible = false ∧
      (mutation.claimsVerified = true →
        (loop.engine.records[mutation.port]?).all fun record =>
          loop.backend.held mutation.port = record.configuration)

instance (loop : SyntheticLoop) (event : SyntheticEvent) : Decidable (loop.Truthful event) :=
  inferInstanceAs (Decidable (∀ mutation ∈ _, _))

/-- What is kept of a live record: a recognisable last mutation, and the agreement. -/
structure PortRecord.Placed (held : Option PortConfiguration) (record : PortRecord) : Prop where
  stamped : record.lastMutation.payloadDigest ≠ 0
  device : record.applied.outcome = .verified →
    ∃ configuration, record.configuration = some configuration ∧ held = some configuration

abbrev SyntheticBackend.Places (backend : SyntheticBackend) (port : PortId)
    (record : PortRecord) : Prop :=
  record.WhileLive (PortRecord.Placed (backend.held port))

section Plans

variable {input : MutationBuildInput} {plan : MutationPlan}

private theorem Proposal.unapplied {mutation : Mutation} (proposed : Proposal mutation input plan)
    (reports : writesConfiguration mutation.kind = false) : plan.requiresApply = false := by
  cases proposed with
  | configured requested | administered requested | reconciled requested =>
      subst requested
      cases reports
  | replaced requested =>
      rcases requested with same | same
      · rw [same] at reports
        cases reports
      · rw [same] at reports
        cases reports
  | rebound _ unapplied | fenced _ unapplied | reowned _ unapplied | evidenced _ unapplied
  | observed _ unapplied => exact unapplied

/-- What is applied to a device is the configuration that the plan commits. -/
theorem Mutation.build_applies {mutation : Mutation} (built : mutation.build input = .ok plan)
    (required : plan.requiresApply = true) :
    plan.next.configuration = some plan.applyConfiguration := by
  have proposed := Mutation.build_proposal built
  cases mutation with
  | configure request =>
      simp only [build, buildConfigure, bind_eq_ok, rejectIf_eq_ok, demand_eq_ok,
        rejectInvalid_eq_ok, pure_eq_ok] at built
      obtain ⟨_, _, _, _, _, _, _, _, _, _, _, _, _, _, _, _, _, _, rfl⟩ := built
      rfl
  | reconfigure request =>
      simp only [build, buildReconfigure, bind_eq_ok, rejectIf_eq_ok, demand_eq_ok,
        dereference_eq_ok, rejectInvalid_eq_ok, pure_eq_ok] at built
      obtain ⟨_, _, _, _, _, _, _, _, _, _, _, _, _, _, _, _, _, _, rfl⟩ := built
      rfl
  | administrative request =>
      simp only [build, buildAdministrative, bind_eq_ok, rejectIf_eq_ok, demand_eq_ok,
        pure_eq_ok] at built
      obtain ⟨_, _, _, _, _, _, _, _, _, _, rfl⟩ := built
      rfl
  | assignProfile request =>
      simp only [build, buildAssignProfile, bind_eq_ok, rejectIf_eq_ok, demand_eq_ok,
        dereference_eq_ok, rejectInvalid_eq_ok, pure_eq_ok] at built
      obtain ⟨_, _, _, _, _, _, _, _, _, _, _, _, rfl⟩ := built
      rfl
  | reconcile request =>
      simp only [build, buildReconcile, bind_eq_ok, rejectIf_eq_ok, demand_eq_ok,
        rejectInvalid_eq_ok, pure_eq_ok] at built
      obtain ⟨_, _, _, _, _, _, _, _, _, _, _, _, rfl⟩ := built
      rfl
  | _ =>
      rw [proposed.unapplied rfl] at required
      cases required

theorem requireRevalidation_not_live {current : PortLifecycle}
    (allowed : (evaluateTransition current .requireRevalidation).allowed = true) :
    (evaluateTransition current .requireRevalidation).result.isLive = false := by
  cases current <;> revert allowed <;> decide

/-- A plan that is not applied and leaves the port live proposes no configuration of its own. -/
theorem Mutation.build_unapplied {mutation : Mutation} (built : mutation.build input = .ok plan)
    (unapplied : plan.requiresApply = false) (live : plan.next.lifecycle.isLive = true) :
    writesConfiguration mutation.kind = false := by
  cases Mutation.build_proposal built with
  | configured _ _ _ _ planned | replaced _ _ _ _ _ planned | reconciled _ _ _ _ planned =>
      rw [planned] at unapplied
      cases unapplied
  | @administered request committed requested present alive allowed unvalidated next =>
      subst requested
      simp only [build, buildAdministrative, bind_eq_ok, rejectIf_eq_ok, demand_eq_ok,
        pure_eq_ok] at built
      obtain ⟨_, _, _, _, _, _, _, _, _, _, rfl⟩ := built
      have demanding : request.op = .requireRevalidation := by simpa using unapplied
      rw [demanding] at allowed
      have fenced := requireRevalidation_not_live allowed
      simp only [demanding] at live
      exact absurd (fenced.symm.trans live) Bool.false_ne_true
  | rebound requested | evidenced requested | observed requested =>
      subst requested
      rfl
  | @fenced lifecycle reason detail retire requested =>
      rw [requested]
      cases retire <;> rfl
  | reowned requested =>
      rcases requested with same | same | same <;> rw [same] <;> rfl

end Plans

section Phases

variable {runtime : Runtime} {mutation : Mutation} {answers : MutationAnswers} {impl : EngineImpl}
  {snapshot final : PortRecord} {plan proposal : MutationPlan} {applied : AppliedEvidence}
  {settled : Bool}

theorem applyPlan_unapplied (unapplied : plan.requiresApply = false) :
    applyPlan runtime snapshot plan answers = .commit plan plan.next.applied false := by
  simp only [applyPlan, unapplied, Bool.not_false, if_true]

/-- The evidence of an applied plan is verified by a readback only. -/
theorem applyPlan_verified (required : plan.requiresApply = true)
    (decided : applyPlan runtime snapshot plan answers = .commit proposal applied settled)
    (verified : (EngineImpl.committedRecord proposal applied settled).applied.outcome =
      .verified) :
    answers.apply.status = .applied ∧ answers.readback.status = .verified := by
  have settles {given : AppliedEvidence} (unverified : given.outcome ≠ .verified)
      (settling : settlePlan plan given = .commit proposal applied settled) : False := by
    simp only [settlePlan, ApplyDecision.commit.injEq] at settling
    obtain ⟨rfl, rfl, rfl⟩ := settling
    exact unverified verified
  unfold applyPlan at decided
  rw [required] at decided
  simp only [Bool.not_true, Bool.false_eq_true, if_false] at decided
  split at decided
  · cases decided
    cases verified
  · split at decided
    · exact (settles (by simp) decided).elim
    · split at decided
      · next accepted =>
          refine ⟨accepted, ?_⟩
          split at decided
          · unfold verifyApplied at decided
            split at decided
            · assumption
            · cases decided
            · cases decided
            · exact (settles (by simp) decided).elim
          · exact (settles (by simp) decided).elim
      · exact (settles (by simp) decided).elim
      · cases decided
      · cases decided

theorem applyPlan_accepted (accepted : answers.apply.status = .applied) (reply : Reply) :
    applyPlan runtime snapshot plan answers ≠ .reject reply := by
  intro rejected
  unfold applyPlan at rejected
  simp only [accepted] at rejected
  split at rejected
  · cases rejected
  · split at rejected
    · cases rejected
    · split at rejected
      · cases rejected
      · split at rejected
        · unfold verifyApplied at rejected
          split at rejected <;> cases rejected
        · cases rejected

theorem Planned.built (planned : Planned runtime mutation answers impl snapshot plan) :
    ∃ input draft, input.current = snapshot ∧ mutation.build input = .ok draft ∧
      plan = stampPlan mutation draft := by
  obtain ⟨_, _, _, prepared⟩ := planMutation_ok planned.planned
  obtain ⟨_, draft, built, _, rfl⟩ := preparePlan_ok prepared
  exact ⟨_, draft, rfl, built, rfl⟩

/-- A mutation that proposes no configuration keeps the evidence, unless it reports other. -/
theorem Proposal.evidence_kept {input : MutationBuildInput}
    (proposed : Proposal mutation input plan) (reports : writesConfiguration mutation.kind = false)
    (verified : plan.next.applied.outcome = .verified) :
    input.current.applied.outcome = .verified ∨
      mutation.claimsVerified = true ∧ input.current.configuration.isSome = true := by
  cases proposed with
  | configured requested | administered requested | reconciled requested =>
      subst requested
      cases reports
  | replaced requested =>
      rcases requested with same | same
      · rw [same] at reports
        cases reports
      · rw [same] at reports
        cases reports
  | @rebound request _ _ next =>
      obtain ⟨_, _, _, _, _, same, _⟩ :=
        (input.current.withEvidence request.binding).reexamined_eq request.binding
      rw [next, same] at verified
      exact .inl verified
  | @fenced lifecycle reason detail retire _ _ _ _ next =>
      obtain ⟨_, _, same⟩ := (input.current.fenced lifecycle reason detail).disowned_eq retire
      rw [next] at verified
      dsimp only at verified
      rw [same] at verified
      exact .inl verified
  | reowned _ _ next =>
      rw [next] at verified
      exact .inl verified
  | @evidenced request requested _ configured _ next =>
      obtain ⟨_, noted⟩ := input.current.evidenced_applied request.evidence
      rw [next, noted] at verified
      subst requested
      exact .inr ⟨decide_eq_true verified, configured⟩
  | @observed request _ _ next =>
      rw [next, PortRecord.drifted_applied] at verified
      split at verified
      · exact .inl verified
      · exact .inl verified

/-- Where verified evidence on a live record that is committed comes from. -/
theorem Commits.verified_origin
    (commits : Commits runtime mutation answers impl snapshot plan final)
    (live : final.lifecycle.isLive = true) (verified : final.applied.outcome = .verified) :
    (answers.apply.status = .applied ∧ answers.readback.status = .verified ∧
        final.configuration = some plan.applyConfiguration) ∨
      (plan.requiresApply = false ∧ snapshot.lifecycle.isLive = true ∧
        final.configuration = snapshot.configuration ∧
        (snapshot.applied.outcome = .verified ∨
          mutation.claimsVerified = true ∧ snapshot.configuration.isSome = true)) := by
  obtain ⟨input, draft, rfl, built, rfl⟩ := commits.toPlanned.built
  obtain ⟨proposal, applied, settled, _, decided, _, rfl⟩ := commits.stored
  cases required : (stampPlan mutation draft).requiresApply with
  | true =>
      obtain ⟨accepted, agreed⟩ := applyPlan_verified required decided verified
      obtain ⟨_, _, _, same, _⟩ := (applyPlan_commit decided).final
      refine .inl ⟨accepted, agreed, ?_⟩
      have applies := Mutation.build_applies built required
      rw [same]
      exact applies
  | false =>
      rw [applyPlan_unapplied required] at decided
      cases decided
      have reports := Mutation.build_unapplied built required live
      have proposed := Mutation.build_proposal built
      have reported := proposed.reported reports
      exact .inr ⟨rfl, reported.live live, reported.configuration,
        proposed.evidence_kept reports verified⟩

/-- A commit is stored while the engine generation can advance and the snapshot is stamped. -/
theorem Planned.stores (planned : Planned runtime mutation answers impl snapshot plan)
    (room : impl.generation.exhaustible = false)
    (stamped : snapshot.lastMutation.payloadDigest ≠ 0)
    (decided : applyPlan runtime snapshot plan answers = .commit proposal applied settled) :
    Commits runtime mutation answers impl snapshot plan
      (EngineImpl.committedRecord proposal applied settled) := by
  obtain ⟨_, standing, unanswered⟩ := observe_ok (planMutation_ok planned.planned).1
  obtain ⟨expected, attempt⟩ := planned.proposal decided
  have fresh : ¬(snapshot.lastMutation.attempt.valid = true ∧
      snapshot.lastMutation.attempt = proposal.next.lastMutation.attempt) := by
    intro given
    rcases given with ⟨valid, same⟩
    refine unanswered ⟨?_, same.trans attempt⟩
    simp [LastMutationRecord.valid, valid, stamped]
  have counts : (impl.authorised runtime mutation).generation.exhaustible = false := by
    rw [EngineImpl.authorised_generation]
    exact room
  exact ⟨planned, _, _, _, _, decided, EngineImpl.commitRecord_of_capture planned.authorised_found
    fresh expected (fun retired => absurd retired standing) counts, rfl⟩

end Phases

section Loop

variable {runtime : Runtime} {loop : SyntheticLoop}

theorem places_invariant (backend : SyntheticBackend) : RecordInvariant backend.Places where
  bound := fun _ _ => .of_not_live rfl
  released := fun _ _ _ _ kept live => ⟨(kept live).stamped, (kept live).device⟩
  uncertain := fun _ record runtime authority generation detail _ =>
    .of_not_live (record.uncertain_not_live runtime authority generation detail)

/-- An operation without an adapter phase makes no record live and keeps what live ones hold. -/
theorem SyntheticLoop.quiet_places
    (every : OrderedMap.Every loop.backend.Places loop.engine.records) {operation : Operation}
    (quiet : operation.mutates = false) :
    OrderedMap.Every (loop.step runtime (.operate operation)).backend.Places
      (loop.step runtime (.operate operation)).engine.records := by
  rw [loop.step_quiet runtime quiet]
  refine (perform_every_iff (places_invariant loop.backend) every _).mpr ?_
  cases operation with
  | mutate mutation answers => cases quiet
  | load container =>
      intro state _
      exact (restoreRecords_recovered OrderedMap.Every.empty).imp fun _ _ recovered =>
        .of_not_live recovered.not_live
  | _ => trivial

/-- What a commit makes of a live record agrees with the device its plan reached. -/
theorem Commits.places {mutation : Mutation} {answers : MutationAnswers} {impl : EngineImpl}
    {snapshot final : PortRecord} {plan : MutationPlan} {before after : SyntheticBackend}
    (commits : Commits runtime mutation answers impl snapshot plan final)
    (reached : after = before ∧ answers.apply.status = .unsupported ∨
      Reaches mutation.port plan answers before after)
    (kept : before.Places mutation.port snapshot)
    (truthful : mutation.claimsVerified = true →
      before.held mutation.port = snapshot.configuration) :
    after.Places mutation.port final := by
  intro live
  refine ⟨?_, fun verified => ?_⟩
  · rw [commits.lastMutation.2]
    exact payloadDigestOf_ne_zero _
  · rcases commits.verified_origin live verified with
      ⟨accepted, agreed, configured⟩ | ⟨unapplied, alive, configured, origin⟩
    · rcases reached with ⟨_, unasked⟩ | reaches
      · exact absurd (accepted.symm.trans unasked) nofun
      · exact ⟨_, configured, reaches.verified accepted agreed⟩
    · have same : after.held mutation.port = before.held mutation.port := by
        rcases reached with ⟨rfl, _⟩ | reaches
        · rfl
        · rcases reaches.device with untouched | ⟨required, _, _⟩
          · exact congrArg (fun observed => observed[mutation.port]?) untouched
          · rw [unapplied] at required
            cases required
      rw [configured, same]
      rcases origin with earlier | ⟨claimed, present⟩
      · exact (kept alive).device earlier
      · obtain ⟨configuration, present⟩ := Option.isSome_iff_exists.mp present
        exact ⟨configuration, present, (truthful claimed).trans present⟩

/-- A mutation that leaves the records as they are has changed no device of a live one. -/
theorem Planned.unrecorded_places {mutation : Mutation} {answers : MutationAnswers}
    {impl : EngineImpl} {snapshot : PortRecord} {plan : MutationPlan}
    {before after : SyntheticBackend}
    (planned : Planned runtime mutation answers impl snapshot plan)
    (reaches : Reaches mutation.port plan answers before after)
    (uncommitted : ∀ snapshot plan final,
      ¬Commits runtime mutation answers impl snapshot plan final)
    (undoubted : ∀ snapshot plan generation detail,
      ¬Doubts runtime mutation answers impl snapshot plan generation detail)
    (room : impl.generation.exhaustible = false) (kept : before.Places mutation.port snapshot) :
    after.Places mutation.port snapshot := by
  intro live
  rcases reaches.device with untouched | ⟨_, accepted, _⟩
  · have same : after.held mutation.port = before.held mutation.port :=
      congrArg (fun observed => observed[mutation.port]?) untouched
    rw [same]
    exact kept live
  · cases decided : applyPlan runtime snapshot plan answers with
    | reject reply => exact absurd decided (applyPlan_accepted accepted reply)
    | commit proposal applied settled =>
        exact (uncommitted _ _ _ (planned.stores room (kept live).stamped decided)).elim
    | uncertain generation detail code reply =>
        exact (undoubted _ _ _ _ ⟨planned, _, _, decided⟩).elim

theorem SyntheticLoop.mutate_places
    (every : OrderedMap.Every loop.backend.Places loop.engine.records) (mutation : Mutation)
    (given : MutationAnswers) (truthful : loop.Truthful (.operate (.mutate mutation given))) :
    OrderedMap.Every (loop.step runtime (.operate (.mutate mutation given))).backend.Places
      (loop.step runtime (.operate (.mutate mutation given))).engine.records := by
  obtain ⟨answers, after, driven, reached⟩ :=
    @executeMutation_driven runtime given.store (.error .success) loop.engine loop.backend mutation
  have stepped : loop.step runtime (.operate (.mutate mutation given)) =
      { engine := (executeMutation runtime mutation answers loop.engine).1, backend := after } := by
    simp only [step, Operation.program, Operation.answers, Program.drive_bind, driven]
    rfl
  obtain ⟨room, seen⟩ := truthful mutation rfl
  have elsewhere {port : PortId} {record : PortRecord} (apart : port ≠ mutation.port)
      (found : loop.engine.records[port]? = some record) : after.Places port record := by
    have same : after.held port = loop.backend.held port := by
      rcases reached with ⟨rfl, _⟩ | ⟨_, _, _, reaches⟩
      · rfl
      · exact reaches.elsewhere apart
    intro live
    rw [same]
    exact every _ _ found live
  have replaced {final : PortRecord} (placed : after.Places mutation.port final) :
      OrderedMap.Every after.Places (loop.engine.records.insert mutation.port final) := by
    intro port record found
    by_cases here : port = mutation.port
    · subst here
      rw [OrderedMap.lookup_insert_self] at found
      cases found
      exact placed
    · rw [OrderedMap.lookup_insert_of_ne (Ne.symm here)] at found
      exact elsewhere here found
  rw [stepped]
  have effect := executeMutation_records runtime mutation answers loop.engine
  dsimp only
  generalize (executeMutation runtime mutation answers loop.engine).1.records = records
    at effect ⊢
  cases effect with
  | unrecorded uncommitted undoubted =>
      rcases reached with ⟨rfl, _⟩ | ⟨snapshot, plan, planned, reaches⟩
      · exact every
      · intro port record found
        by_cases here : port = mutation.port
        · subst here
          cases planned.snapshot_found.symm.trans found
          exact planned.unrecorded_places reaches uncommitted undoubted room (every _ _ found)
        · exact elsewhere here found
  | @committed snapshot final plan commits =>
      have found := commits.toPlanned.snapshot_found
      refine replaced (commits.places ?_ (every _ _ found) fun claimed => ?_)
      · rcases reached with unasked | ⟨_, _, planned, reaches⟩
        · exact .inl unasked
        · obtain ⟨rfl, rfl⟩ := commits.toPlanned.unique planned
          exact .inr reaches
      · have agreeing := seen claimed
        rw [found] at agreeing
        exact of_decide_eq_true agreeing
  | doubted doubts => exact replaced (.of_not_live (PortRecord.uncertain_not_live _ _ _ _ _))

theorem SyntheticLoop.step_places
    (every : OrderedMap.Every loop.backend.Places loop.engine.records) (event : SyntheticEvent)
    (truthful : loop.Truthful event) :
    OrderedMap.Every (loop.step runtime event).backend.Places
      (loop.step runtime event).engine.records := by
  cases event with
  | operate operation =>
      cases operation with
      | mutate mutation answers => exact SyntheticLoop.mutate_places every mutation answers truthful
      | _ => exact SyntheticLoop.quiet_places every rfl
  | change made => exact every

end Loop

/--
In every run of the engine's operations, one after another, on a synthetic fabric
that changes and whose faults come and go between them, verified evidence of a live
port is about the configuration that its device holds.
-/
theorem devices_agree (runtime : Runtime) (name : Text) (events : List SyntheticEvent)
    (truthful : Runs.Along (SyntheticLoop.step runtime) SyntheticLoop.Truthful
      (.initial runtime name) events) :
    Runs.Throughout (SyntheticLoop.step runtime) SyntheticLoop.DevicesAgree
      (.initial runtime name) events := by
  have placed : Runs.Throughout (SyntheticLoop.step runtime)
      (fun loop => OrderedMap.Every loop.backend.Places loop.engine.records)
      (.initial runtime name) events :=
    Runs.throughout_along
      (fun _ event every allowed => SyntheticLoop.step_places every event allowed)
      OrderedMap.Every.empty truthful
  exact placed.imp fun _ every _ _ found live => (every _ _ found live).device

section Example

open Fixture

private def onDevice : PortId := "syn-sw1-p01"

private def sent (attempt : MutationAttemptId) : MutationEnvelope :=
  envelope onDevice "agent" "boot" attempt .first

/-- A port is configured, and disabled once under a fault and once without. -/
private def disabling : List SyntheticEvent :=
  [ .change (.addDevice "sw1" .spine400G 1 .syntheticPort),
    .operate (.registerPublisher "agent" "boot" .first),
    .operate (.bindPort
      { port := onDevice
        parentDevice := SyntheticFabric.deviceFor "sw1"
        deviceGeneration := .first
        epoch := .first
        attempt := "bind" } {}),
    .operate (.mutate (claim (sent "claim") "agent") {}),
    .operate (.mutate (.configure
      { envelope := sent "configure"
        configuration :=
          { makeConfiguration onDevice with
            parentDevice := SyntheticFabric.deviceFor "sw1" } }) {}),
    .change (.setFault onDevice .deviceDisappeared),
    .operate (.mutate (administer (sent "disable-a") .disable) {}),
    .change .clearFaults,
    .operate (.mutate (administer (sent "disable-b") .disable) {}) ]

theorem disabled_port_agrees :
    Runs.Throughout (SyntheticLoop.step runtime) SyntheticLoop.DevicesAgree
        (.initial runtime "synthetic") disabling ∧
      ((Runs.run (SyntheticLoop.step runtime) (.initial runtime "synthetic")
        disabling).backend.held onDevice).map PortConfiguration.administrative = some .disabled :=
  ⟨devices_agree runtime "synthetic" disabling (by decide +kernel), by decide +kernel⟩

end Example

end PortFabric
