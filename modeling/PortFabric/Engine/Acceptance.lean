import PortFabric.Engine.WellFormedness

/-!
# Acceptance

What a request needs to get through the pipeline: the phases before planning let
a live incarnation through, and a plan made for the current record is stored.
-/

set_option autoImplicit false

namespace PortFabric

open Checks

/-- A live incarnation addresses the record under the current epoch, with a fresh attempt. -/
structure EngineImpl.Addresses (impl : EngineImpl) (mutation : Mutation) (record : PortRecord) :
    Prop where
  found : impl.records[mutation.port]? = some record
  standing : record.lifecycle ≠ .retired
  alive : impl.Alive mutation.authority.publisher mutation.authority.boot
  current : mutation.authority.epoch = impl.epoch
  attempt : mutation.attempt.valid = true
  fresh : mutation.attempt ≠ record.lastMutation.attempt

namespace EngineImpl.Addresses

variable {runtime : Runtime} {impl : EngineImpl} {mutation : Mutation} {record : PortRecord}
  {answers : MutationAnswers}

theorem complete (addresses : impl.Addresses mutation record) (wellFormed : impl.WellFormed) :
    mutation.authority.valid = true := by
  obtain ⟨publisher, boot, epoch⟩ := wellFormed.alive_named addresses.alive
  have attempt : mutation.authority.attempt.valid = true := addresses.attempt
  simp [AuthorityContext.valid, publisher, boot, addresses.current, epoch, attempt]

theorem authority (addresses : impl.Addresses mutation record) (wellFormed : impl.WellFormed) :
    impl.checkAuthority runtime mutation.authority = (impl, .success) := by
  obtain ⟨found, present, boot, unfenced⟩ := addresses.alive
  simp [checkAuthority, addresses.complete wellFormed, addresses.current, present, boot, unfenced]

theorem named (addresses : impl.Addresses mutation record) (wellFormed : impl.WellFormed) :
    mutation.port.valid = true :=
  wellFormed.keyed _ _ addresses.found ▸ (wellFormed.formed _ _ addresses.found).port

theorem admitted (addresses : impl.Addresses mutation record) (wellFormed : impl.WellFormed)
    (running : impl.shuttingDown = false) : admitMutation impl mutation = .ok () := by
  simp [admitMutation, running, addresses.named wellFormed, addresses.complete wellFormed]

theorem observed (addresses : impl.Addresses mutation record) :
    observe impl mutation = .ok record := by
  have unanswered : ¬(record.lastMutation.valid = true ∧
      record.lastMutation.attempt = mutation.attempt) :=
    fun answered => addresses.fresh answered.2.symm
  simp [observe, addresses.found, replayDecision, addresses.standing, unanswered]

/-- The call of a request that addresses the record is decided by its plan. -/
theorem executeMutation_eq (addresses : impl.Addresses mutation record)
    (wellFormed : impl.WellFormed) (running : impl.shuttingDown = false) :
    executeMutation runtime mutation answers impl =
      match planMutation runtime mutation answers.provider impl with
      | .error reply => (impl, reply)
      | .ok (snapshot, plan) =>
          concludeMutation runtime mutation (applyPlan runtime snapshot plan answers) answers.store
            impl := by
  have authorised : authorise runtime impl mutation = (impl, .ok ()) := by
    simp [authorise, addresses.authority wellFormed, Outcome.success]
  rw [executeMutation, addresses.admitted wellFormed running]
  dsimp only
  rewrite [authorised]
  rfl

/-- Behind the gates on the snapshot, the device gate and the builder decide. -/
theorem planMutation_eq {answer : ProviderAnswer} (addresses : impl.Addresses mutation record)
    (topology : mutation.authority.expectedTopology.valid = false)
    (gated : snapshotGates runtime.config mutation record = .ok ()) :
    planMutation runtime mutation answer impl =
      (deviceGate mutation record (readContext impl record) >>= fun _ =>
        preparePlan runtime impl.profiles mutation record (readContext impl record) answer >>=
          fun plan => pure (record, plan)) := by
  have expected : expectTopology impl mutation = .ok () := by
    simp [expectTopology, topology]
  simp only [planMutation, addresses.observed, expected, gated, ok_bind]

end EngineImpl.Addresses

section Commit

variable {runtime : Runtime} {impl : EngineImpl} {mutation : Mutation} {record : PortRecord}
  {answers : MutationAnswers} {plan proposal : MutationPlan} {applied : AppliedEvidence}
  {settled : Bool}

/-- What the adapter lets through still answers the record the plan was made for. -/
theorem EngineImpl.Addresses.proposal_current (addresses : impl.Addresses mutation record)
    (planned : planMutation runtime mutation answers.provider impl = .ok (record, plan))
    (decided : applyPlan runtime record plan answers = .commit proposal applied settled) :
    ¬(record.lastMutation.attempt.valid = true ∧
        record.lastMutation.attempt = proposal.next.lastMutation.attempt) ∧
      proposal.expected = .capture record := by
  obtain ⟨_, _, _, prepared⟩ := planMutation_ok planned
  obtain ⟨_, built, proposed, _, rfl⟩ := preparePlan_ok prepared
  have settles := applyPlan_commit decided
  refine ⟨?_, ?_⟩
  · intro given
    rcases given with ⟨_, same⟩
    rw [settles.lastMutation] at same
    exact addresses.fresh same.symm
  · rw [settles.expected]
    exact Mutation.build_expected proposed

/-- A plan that the adapter lets through is stored while the engine generation can advance. -/
theorem EngineImpl.Addresses.commitRecord_eq (addresses : impl.Addresses mutation record)
    (planned : planMutation runtime mutation answers.provider impl = .ok (record, plan))
    (decided : applyPlan runtime record plan answers = .commit proposal applied settled)
    (room : impl.generation.exhaustible = false) :
    impl.commitRecord mutation.port proposal applied settled =
      .ok (impl.replaceRecord mutation.port record
        (committedRecord proposal applied settled)) := by
  obtain ⟨fresh, expected⟩ := addresses.proposal_current planned decided
  exact commitRecord_of_capture addresses.found fresh expected
    (fun retired => absurd retired addresses.standing) room

/-- At the end of the engine generations a plan is refused for that reason alone. -/
theorem EngineImpl.Addresses.commitRecord_full (addresses : impl.Addresses mutation record)
    (planned : planMutation runtime mutation answers.provider impl = .ok (record, plan))
    (decided : applyPlan runtime record plan answers = .commit proposal applied settled)
    (full : impl.generation.exhaustible = true) :
    impl.commitRecord mutation.port proposal applied settled =
      .error (.rejected .resourceBoundExceeded "the engine generation can no longer advance") := by
  obtain ⟨fresh, expected⟩ := addresses.proposal_current planned decided
  have matching : proposal.expected.matchesRecord record = true :=
    ExpectedState.matchesRecord_iff.mpr expected
  simp only [commitRecord, addresses.found, fresh, matching, addresses.standing, full, if_false,
    false_and, Bool.not_true, Bool.false_eq_true, if_true]

theorem EngineImpl.Addresses.executeMutation_commit (addresses : impl.Addresses mutation record)
    (wellFormed : impl.WellFormed) (running : impl.shuttingDown = false)
    (planned : planMutation runtime mutation answers.provider impl = .ok (record, plan))
    (decided : applyPlan runtime record plan answers = .commit proposal applied settled) :
    executeMutation runtime mutation answers impl =
      ((impl.commit runtime mutation.port proposal applied settled answers.store).1,
        .result (impl.commit runtime mutation.port proposal applied settled answers.store).2) := by
  rw [addresses.executeMutation_eq wellFormed running, planned]
  simp only [decided, concludeMutation]

end Commit

end PortFabric
