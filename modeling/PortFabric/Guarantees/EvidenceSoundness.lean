import PortFabric.Engine.Fixture
import PortFabric.Engine.RecordInvariants

/-!
# Evidence soundness

Verified evidence belongs to the committed configuration in its current
generation. The adapter phase keeps to that. Reported evidence, an observation
that the port is in sync and a recovered record can carry the flag without it.
-/

set_option autoImplicit false

namespace PortFabric

/-- Evidence flagged as verified is verified, and of the current configuration. -/
def PortRecord.EvidenceSound (record : PortRecord) : Prop :=
  record.applied.verified = true →
    record.configuration.isSome = true ∧ record.applied.outcome = .verified ∧
      record.applied.generation = record.generations.configuration

def EngineImpl.EvidenceSound (impl : EngineImpl) : Prop :=
  OrderedMap.Every (fun _ record => record.EvidenceSound) impl.records

/--
Reported evidence that claims to be verified says so in its outcome, and a port
is observed in sync only when its evidence already is that of a verified apply
of the current configuration.
-/
def Mutation.FlagsSoundly (snapshot : PortRecord) : Mutation → Prop
  | .recordAppliedEvidence request =>
      request.evidence.verified = true → request.evidence.outcome = .verified
  | .observeExternalState request =>
      request.observed = .inSync →
        snapshot.configuration.isSome = true ∧ snapshot.applied.outcome = .verified ∧
          snapshot.applied.generation = snapshot.generations.configuration
  | _ => True

/--
The operation commits only soundly flagged evidence. A recovery restores only
records whose flag it takes away, if they have it.
-/
def KeepsEvidenceSound (runtime : Runtime) (impl : EngineImpl) : Operation → Prop
  | .mutate mutation answers =>
      ∀ snapshot plan final, Commits runtime mutation answers impl snapshot plan final →
        mutation.FlagsSoundly snapshot
  | .load container => ∀ state, Recovers runtime impl container state →
      ∀ port record, state.recoverable.find? (fun record => record.port = port) = some record →
        record.applied.Downgradable
  | _ => True

section Writers

variable {record : PortRecord}

theorem PortRecord.EvidenceSound.congr {other : PortRecord} (sound : record.EvidenceSound)
    (applied : other.applied = record.applied)
    (configuration : record.configuration.isSome = true → other.configuration.isSome = true)
    (generation : other.generations.configuration = record.generations.configuration) :
    other.EvidenceSound := by
  intro verified
  rw [applied] at verified ⊢
  rw [generation]
  obtain ⟨configured, outcome, current⟩ := sound verified
  exact ⟨configuration configured, outcome, current⟩

theorem PortRecord.EvidenceSound.of_unverified (unverified : record.applied.verified = false) :
    record.EvidenceSound := by
  intro verified
  rw [unverified] at verified
  cases verified

theorem evidenceSound_invariant : RecordInvariant fun _ record => record.EvidenceSound where
  bound := fun _ _ => .of_unverified rfl
  released := fun _ _ _ _ sound => sound.congr rfl id rfl
  uncertain := fun _ record runtime authority generation detail _ =>
    .of_unverified (record.uncertain_unverified runtime authority generation detail)

/-- A recovered record has lost the outcome that goes with the flag. -/
theorem PortRecord.recovered_sound_iff :
    record.recovered.EvidenceSound ↔ record.applied.Downgradable := by
  rw [← recovered_unverified_iff]
  constructor
  · intro sound
    by_contra flagged
    have verified : record.recovered.applied.verified = true := by simpa using flagged
    obtain ⟨_, outcome, _⟩ := sound verified
    obtain ⟨_, _, _, owned⟩ := record.recoverOwnership_eq
    rw [recovered_applied, owned] at outcome
    unfold recoverEvidence at outcome
    split at outcome
    · cases outcome
    · next unsettled => exact unsettled (.inr outcome)
  · exact .of_unverified

end Writers

section Commits

variable {runtime : Runtime} {impl : EngineImpl} {mutation : Mutation} {answers : MutationAnswers}
  {snapshot final : PortRecord} {plan : MutationPlan}

theorem Mutation.flagsSoundly_of_kind (evidence : mutation.kind ≠ .recordAppliedEvidence)
    (observation : mutation.kind ≠ .observeExternalState) : mutation.FlagsSoundly snapshot := by
  cases mutation with
  | recordAppliedEvidence request => exact absurd rfl evidence
  | observeExternalState request => exact absurd rfl observation
  | _ => trivial

/-- A plan that is applied carries the configuration its evidence will be about. -/
theorem Proposal.applied_configured {input : MutationBuildInput}
    (proposed : Proposal mutation input plan) (required : plan.requiresApply = true) :
    plan.next.configuration.isSome = true := by
  have unapplied (applied : plan.requiresApply = false) : False := by
    rw [required] at applied
    cases applied
  cases proposed with
  | configured _ _ _ _ planned =>
      rw [planned]
      rfl
  | replaced _ _ _ _ _ planned =>
      rw [planned]
      rfl
  | administered _ _ _ _ _ next =>
      rw [next]
      rfl
  | reconciled _ _ _ _ planned =>
      rw [planned]
      rfl
  | rebound _ applied _ => exact (unapplied applied).elim
  | fenced _ applied _ _ _ => exact (unapplied applied).elim
  | reowned _ applied _ => exact (unapplied applied).elim
  | evidenced _ applied _ _ _ => exact (unapplied applied).elim
  | observed _ applied _ => exact (unapplied applied).elim

/-- A plan that is not applied keeps evidence sound exactly when its mutation flags it soundly. -/
theorem Proposal.evidenceSound_iff {input : MutationBuildInput}
    (sound : input.current.EvidenceSound) (proposed : Proposal mutation input plan)
    (unapplied : plan.requiresApply = false) :
    plan.next.EvidenceSound ↔ mutation.FlagsSoundly input.current := by
  cases proposed with
  | configured _ _ _ _ planned =>
      subst planned
      cases unapplied
  | replaced _ _ _ _ _ planned =>
      subst planned
      cases unapplied
  | administered requested _ _ _ _ next =>
      subst requested
      rw [next]
      exact iff_of_true (sound.congr rfl (fun _ => rfl) rfl) trivial
  | @rebound request requested _ next =>
      subst requested
      obtain ⟨_, _, _, _, _, same, _⟩ :=
        (input.current.withEvidence request.binding).reexamined_eq request.binding
      rw [next, same]
      exact iff_of_true (sound.congr rfl id rfl) trivial
  | reconciled _ _ _ _ planned =>
      subst planned
      cases unapplied
  | @fenced lifecycle reason detail retire requested _ _ _ next =>
      obtain ⟨_, _, same⟩ := (input.current.fenced lifecycle reason detail).disowned_eq retire
      rw [next]
      dsimp only
      rw [same]
      refine iff_of_true (.of_unverified rfl) (Mutation.flagsSoundly_of_kind ?_ ?_)
      · split at requested <;> simp [requested]
      · split at requested <;> simp [requested]
  | reowned requested _ next =>
      rw [next]
      refine iff_of_true (sound.congr rfl id rfl) (Mutation.flagsSoundly_of_kind ?_ ?_)
      · rcases requested with same | same | same <;> simp [same]
      · rcases requested with same | same | same <;> simp [same]
  | @evidenced request requested _ configured current next =>
      subst requested
      obtain ⟨_, applied⟩ := input.current.evidenced_applied request.evidence
      obtain ⟨_, _, _, _, _, _, _, same, _⟩ := input.current.evidenced_eq request.evidence
      have committed : (input.current.evidenced request.evidence).configuration.isSome = true := by
        rw [same]
        exact configured
      have generation : (input.current.evidenced request.evidence).generations.configuration =
          input.current.generations.configuration := by
        rw [same]
      rw [next, PortRecord.EvidenceSound, committed, generation, applied]
      constructor
      · exact fun kept verified => (kept verified).2.1
      · exact fun flagged verified => ⟨rfl, flagged verified, current⟩
  | @observed request requested _ next =>
      subst requested
      obtain ⟨_, _, _, _, _, same, _⟩ :=
        input.current.drifted_eq request.observed request.detail
      have committed : (input.current.drifted request.observed request.detail).configuration =
          input.current.configuration := by
        rw [same]
      have generation :
          (input.current.drifted request.observed request.detail).generations.configuration =
            input.current.generations.configuration := by
        rw [same]
      by_cases synchronised : request.observed = .inSync
      · rw [next, PortRecord.EvidenceSound, committed, generation, PortRecord.drifted_applied,
          if_pos synchronised]
        constructor
        · exact fun kept _ => kept rfl
        · exact fun flagged _ => flagged synchronised
      · have applied : (input.current.drifted request.observed request.detail).applied =
            input.current.applied := by
          rw [PortRecord.drifted_applied, if_neg synchronised]
        rw [next]
        refine iff_of_true ?_ fun observed => absurd observed synchronised
        exact sound.congr applied (fun configured => committed ▸ configured) generation

/-- A commit keeps evidence sound exactly when its mutation flags it soundly. -/
theorem Commits.evidenceSound_iff (sound : snapshot.EvidenceSound)
    (commits : Commits runtime mutation answers impl snapshot plan final) :
    final.EvidenceSound ↔ mutation.FlagsSoundly snapshot := by
  obtain ⟨_, proposal, applied, _, _, proposed, _, _, rfl, settlement⟩ := commits.settlement
  by_cases required : proposal.requiresApply = true
  · have configured := proposed.applied_configured required
    have decided := settlement.decided required
    obtain ⟨_, unreported, unobserved⟩ := proposed.applied_kind required
    refine iff_of_true ?_ (Mutation.flagsSoundly_of_kind unreported unobserved)
    exact fun verified => ⟨configured, decided.verified verified, decided.generation⟩
  · have unapplied : proposal.requiresApply = false := by simpa using required
    obtain ⟨rfl, _⟩ := settlement.unapplied unapplied
    have kept : proposal.next.EvidenceSound ↔ mutation.FlagsSoundly snapshot :=
      proposed.evidenceSound_iff sound unapplied
    exact kept

end Commits

/--
Verified evidence is sound throughout a run exactly when no operation of the run
commits or recovers the flag without what it stands for.
-/
theorem evidence_sound_throughout_iff (runtime : Runtime) (operations : List Operation) :
    Runs.Throughout (EngineImpl.perform runtime) EngineImpl.EvidenceSound
        (.initial runtime.config) operations ↔
      Runs.Along (EngineImpl.perform runtime) (KeepsEvidenceSound runtime)
        (.initial runtime.config) operations := by
  apply every_throughout_iff_along evidenceSound_invariant
  intro impl operation sound
  cases operation with
  | mutate mutation answers =>
      refine forall_congr' fun snapshot => forall_congr' fun plan => forall_congr' fun final =>
        forall_congr' fun commits => ?_
      exact commits.evidenceSound_iff (sound _ _ commits.toPlanned.snapshot_found)
  | load container =>
      refine forall_congr' fun state => forall_congr' fun _ => ?_
      rw [restored_every_iff]
      exact forall_congr' fun _ => forall_congr' fun _ => forall_congr' fun _ =>
        PortRecord.recovered_sound_iff
  | _ => exact Iff.rfl

namespace ObservedBinding

def port : PortId := "syn-sw1-p01"

/-- The port has no configuration yet when it is observed in sync. -/
def operations : List Operation :=
  [ Fixture.bind port "bind-1",
    .mutate
      (.observeExternalState
        { envelope := Fixture.envelope port "agent-a" "boot-a" "observe-1" .first
          observed := .inSync })
      Fixture.verified ]

set_option maxRecDepth 100000 in
/-- The evidence of the unconfigured port is verified. -/
theorem verified_unconfigured :
    ¬(EngineImpl.after Fixture.runtime operations).EvidenceSound := by
  have stored : ((EngineImpl.after Fixture.runtime operations).records[port]?).map
      (fun record => (record.applied.verified, record.configuration.isSome)) =
        some (true, false) := by
    decide +kernel
  intro sound
  obtain ⟨record, found, observed⟩ := Option.map_eq_some_iff.mp stored
  obtain ⟨verified, unconfigured⟩ := Prod.mk.inj observed
  have configured := (sound port record found verified).1
  rw [unconfigured] at configured
  cases configured

end ObservedBinding

end PortFabric
