import PortFabric.Engine.Fixture
import PortFabric.Engine.GenerationProperties

/-!
# Generation order

The counters a record advances itself never go backwards. The capability and
the evidence generation are copied from the evidence a port is bound to, and
the evidence a caller supplies may be older than what the record has counted.
-/

set_option autoImplicit false

namespace PortFabric

open PortFabricEngine

/-- No counter of a record that was there before, and not the engine generation, is smaller. -/
structure GenerationsKept (before after : EngineImpl) : Prop where
  records : ∀ (port : PortId) (former latter : PortRecord), before.records[port]? = some former →
    after.records[port]? = some latter → former.generations.Precedes latter.generations
  engine : before.generation ≤ after.generation

/-- The generations the evidence carries are not behind those of the record. -/
def Mutation.SuppliesLater (snapshot : PortRecord) : Mutation → Prop
  | .bindCapabilities request =>
      snapshot.generations.capability ≤ request.binding.generation ∧
        snapshot.generations.evidence ≤ request.binding.evidenceGeneration
  | _ => True

/-- The operation binds no evidence that is behind the record it is bound to. -/
def BindsLaterEvidence (runtime : Runtime) (impl : EngineImpl) : Operation → Prop
  | .mutate mutation answers =>
      ∀ snapshot plan final, Commits runtime mutation answers impl snapshot plan final →
        mutation.SuppliesLater snapshot
  | _ => True

section Commits

variable {runtime : Runtime} {impl : EngineImpl} {mutation : Mutation} {answers : MutationAnswers}
  {snapshot final : PortRecord} {plan : MutationPlan}

theorem Mutation.suppliesLater_of_kind (other : mutation.kind ≠ .bindCapabilities) :
    mutation.SuppliesLater snapshot := by
  cases mutation with
  | bindCapabilities request => exact absurd rfl other
  | _ => trivial

/-- The counters of a plan that its builder does not advance from the record itself. -/
structure ExternalCounters (mutation : Mutation) (current next : PortRecord) : Prop where
  topology : next.generations.topology = current.generations.topology
  device : next.generations.device = current.generations.device
  supplied : (current.generations.capability ≤ next.generations.capability ∧
      current.generations.evidence ≤ next.generations.evidence) ↔
    mutation.SuppliesLater current

theorem ExternalCounters.of_same {current next : PortRecord}
    (other : mutation.kind ≠ .bindCapabilities)
    (topology : next.generations.topology = current.generations.topology)
    (device : next.generations.device = current.generations.device)
    (capability : next.generations.capability = current.generations.capability)
    (evidence : current.generations.evidence ≤ next.generations.evidence) :
    ExternalCounters mutation current next := by
  refine ⟨topology, device, iff_of_true ⟨?_, evidence⟩ (Mutation.suppliesLater_of_kind other)⟩
  rw [capability]
  exact Generation.le_refl _

theorem Proposal.external {input : MutationBuildInput} (proposed : Proposal mutation input plan) :
    ExternalCounters mutation input.current plan.next := by
  cases proposed with
  | configured requested _ _ _ planned =>
      subst requested planned
      exact .of_same nofun rfl rfl rfl (Generation.le_refl _)
  | replaced requested _ _ _ _ planned =>
      subst planned
      refine .of_same ?_ rfl rfl rfl (Generation.le_refl _)
      rcases requested with same | same <;> simp [same]
  | administered requested _ _ _ _ next =>
      subst requested
      rw [next]
      exact .of_same nofun rfl rfl rfl (Generation.le_refl _)
  | @rebound request requested _ next =>
      subst requested
      obtain ⟨_, _, _, _, _, same, _⟩ :=
        (input.current.withEvidence request.binding).reexamined_eq request.binding
      rw [next, same]
      exact ⟨rfl, rfl, Iff.rfl⟩
  | reconciled requested _ _ _ planned =>
      subst requested planned
      exact .of_same nofun rfl rfl rfl (Generation.le_refl _)
  | @fenced lifecycle reason detail retire requested _ _ _ next =>
      obtain ⟨_, _, same⟩ := (input.current.fenced lifecycle reason detail).disowned_eq retire
      rw [next]
      dsimp only
      rw [same]
      refine .of_same ?_ rfl rfl rfl (Generation.le_refl _)
      split at requested <;> simp [requested]
  | reowned requested _ next =>
      rw [next]
      refine .of_same ?_ rfl rfl rfl (Generation.le_refl _)
      rcases requested with same | same | same <;> simp [same]
  | @evidenced request requested _ _ _ next =>
      subst requested
      have counted : (input.current.evidenced request.evidence).generations.evidence =
          input.current.generations.evidence.advance :=
        input.current.evidenced_generation request.evidence
      obtain ⟨_, _, _, _, _, _, _, same, _⟩ := input.current.evidenced_eq request.evidence
      rw [next, same]
      rw [same] at counted
      refine .of_same nofun rfl rfl rfl ?_
      rw [counted]
      exact Generation.le_advance _
  | @observed request requested _ next =>
      subst requested
      obtain ⟨_, _, _, _, _, same, _⟩ :=
        input.current.drifted_eq request.observed request.detail
      rw [next, same]
      exact .of_same nofun rfl rfl rfl (Generation.le_refl _)

/-- A commit moves no counter backwards exactly when it binds no older evidence. -/
theorem Commits.precedes_iff
    (commits : Commits runtime mutation answers impl snapshot plan final) :
    snapshot.generations.Precedes final.generations ↔ mutation.SuppliesLater snapshot := by
  obtain ⟨counted, settings⟩ := commits.counted
  obtain ⟨_, proposal, applied, _, evidence, proposed, _, _, rfl, settlement⟩ :=
    commits.settlement
  have external := proposed.external
  have assembled (later : snapshot.generations.evidence ≤ evidence)
      (capability : snapshot.generations.capability ≤ proposal.next.generations.capability) :
      snapshot.generations.Precedes
        ((stampPlan mutation proposal).next.settledWith applied _ evidence).generations :=
    { configuration := settings.le
      administrative := counted.administrative.le
      ownership := counted.ownership.le
      capability
      topology := external.topology ▸ Generation.le_refl _
      device := external.device ▸ Generation.le_refl _
      lifecycle := counted.lifecycle.le
      evidence := later }
  by_cases counts : CountsEvidence runtime proposal
  · have supplies : mutation.SuppliesLater snapshot :=
      Mutation.suppliesLater_of_kind (proposed.applied_kind counts.1).1
    obtain ⟨capability, reported⟩ := external.supplied.mpr supplies
    refine iff_of_true (assembled ?_ capability) supplies
    rw [settlement.counted, if_pos counts]
    exact Generation.le_trans reported (Generation.le_advance _)
  · have same : evidence = proposal.next.generations.evidence := by
      rw [settlement.counted, if_neg counts]
    subst same
    constructor
    · exact fun precedes => external.supplied.mp ⟨precedes.capability, precedes.evidence⟩
    · intro supplies
      obtain ⟨capability, reported⟩ := external.supplied.mpr supplies
      exact assembled reported capability

end Commits

section Steps

variable {runtime : Runtime} {impl : EngineImpl}

theorem PortRecord.released_precedes (record : PortRecord) (reason detail : Text) :
    record.generations.Precedes (record.released reason detail).generations :=
  { GenerationVector.Precedes.refl record.generations with
    ownership := (record.released_counted reason detail).ownership.le }

theorem PortRecord.uncertain_precedes (record : PortRecord) (authority : AuthorityContext)
    (generation : PortConfigurationGeneration) (detail : Text) :
    record.generations.Precedes
      (record.uncertain runtime authority generation .outcomeUnknown detail).generations := by
  have lifecycle :=
    (record.uncertain_counted runtime authority generation detail).lifecycle.le
  obtain ⟨_, _, _, _, same, _⟩ := record.uncertain_eq runtime authority generation detail
  rw [same] at lifecycle ⊢
  exact
    { GenerationVector.Precedes.refl record.generations with
      lifecycle, evidence := Generation.le_advance _ }

/-- An operation other than a load keeps the order exactly when it binds no older evidence. -/
theorem perform_generationsKept_iff {operation : Operation}
    (unloaded : operation.isLoad = false) :
    GenerationsKept impl (impl.perform runtime operation) ↔
      BindsLaterEvidence runtime impl operation := by
  constructor
  · intro kept
    cases operation with
    | mutate mutation answers =>
        intro snapshot plan final commits
        have precedes := kept.records _ _ _ commits.toPlanned.snapshot_found commits.stored_record
        exact commits.precedes_iff.mp precedes
    | _ => trivial
  · intro later
    refine ⟨fun port former latter found stored => ?_, (EngineImpl.perform_stamps unloaded).le⟩
    cases record_step stored with
    | kept again =>
        cases found.symm.trans again
        exact .refl _
    | released reason detail again =>
        cases found.symm.trans again
        exact former.released_precedes reason detail
    | bound _ absent => cases found.symm.trans absent
    | committed commits =>
        cases found.symm.trans commits.toPlanned.snapshot_found
        exact commits.precedes_iff.mpr (later _ _ _ commits)
    | doubted doubts =>
        cases found.symm.trans doubts.toPlanned.snapshot_found
        exact former.uncertain_precedes _ _ _
    | recovered _ _ => simp [Operation.isLoad] at unloaded

end Steps

/--
Along a run, from any engine, no operation other than a load takes a generation
back exactly when no operation of the run binds evidence older than the record.
-/
theorem generations_kept_along_iff (runtime : Runtime) (impl : EngineImpl)
    (operations : List Operation) :
    Runs.Along (EngineImpl.perform runtime)
        (fun impl operation => operation.isLoad = false →
          GenerationsKept impl (impl.perform runtime operation)) impl operations ↔
      Runs.Along (EngineImpl.perform runtime) (BindsLaterEvidence runtime) impl operations := by
  have always (impl : EngineImpl) (operation : Operation) (_ : True) (_ : True) : True := trivial
  refine Runs.along_congr always (fun impl operation _ => ?_) trivial fun _ _ => trivial
  constructor
  · intro kept
    cases operation with
    | load container => trivial
    | _ => exact (perform_generationsKept_iff rfl).mp (kept rfl)
  · exact fun later unloaded => (perform_generationsKept_iff unloaded).mpr later

namespace OutdatedEvidence

def port : PortId := "syn-sw1-p01"

/-- The provider knows the port under its second evidence generation. -/
def reported : ProviderAnswer where
  binding := some { Fixture.evidence with evidenceGeneration := .next .first }

def operations : List Operation :=
  [ .bindPort
      { port, parentDevice := Fixture.device, deviceGeneration := .first, epoch := .first
        attempt := "bind-1" }
      { provider := reported },
    .mutate (Fixture.claim (Fixture.envelope port "agent-a" "boot-a" "claim-1" .first) "agent-a")
      { provider := reported } ]

/-- A newer capability generation with the first evidence generation. -/
def rebind : Operation :=
  .mutate
    (.bindCapabilities
      { envelope := Fixture.envelope port "agent-a" "boot-a" "capabilities-1" .first
        binding := { Fixture.evidence with generation := .next .first } })
    { provider := reported }

/-- The evidence generation falls from the second to the first. -/
theorem evidence_taken_back :
    ¬GenerationsKept (EngineImpl.after Fixture.runtime operations)
      ((EngineImpl.after Fixture.runtime operations).perform Fixture.runtime rebind) := by
  intro kept
  have former : ((EngineImpl.after Fixture.runtime operations).records[port]?).map
      (fun record => record.generations.evidence.value) = some 2 := by
    decide +kernel
  have latter : (((EngineImpl.after Fixture.runtime operations).perform Fixture.runtime
      rebind).records[port]?).map (fun record => record.generations.evidence.value) = some 1 := by
    decide +kernel
  obtain ⟨before, found, second⟩ := Option.map_eq_some_iff.mp former
  obtain ⟨after, stored, first⟩ := Option.map_eq_some_iff.mp latter
  have later : before.generations.evidence.value ≤ after.generations.evidence.value :=
    (kept.records port before after found stored).evidence
  rw [second, first] at later
  exact absurd later (by decide)

end OutdatedEvidence

end PortFabric
