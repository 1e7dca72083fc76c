import PortFabric.Engine.Fixture
import PortFabric.Engine.RecordInvariants

/-!
# Device binding

The device generation a live record is bound to is the one its configuration
names. Every writer keeps the two together except a reconciliation, which
rewrites the configuration alone.
-/

set_option autoImplicit false

namespace PortFabric

/-- A live record is bound to the device generation of its configuration. -/
def PortRecord.DeviceBound (record : PortRecord) : Prop :=
  record.lifecycle.isLive = true → ∀ configuration, record.configuration = some configuration →
    record.generations.device = configuration.deviceGeneration

def EngineImpl.DeviceBound (impl : EngineImpl) : Prop :=
  OrderedMap.Every (fun _ record => record.DeviceBound) impl.records

section Writers

variable {record other : PortRecord}

theorem PortRecord.DeviceBound.congr (bound : record.DeviceBound)
    (lifecycle : other.lifecycle.isLive = true → record.lifecycle.isLive = true)
    (configuration : other.configuration = record.configuration)
    (device : other.generations.device = record.generations.device) : other.DeviceBound := by
  intro live committed present
  rw [device]
  exact bound (lifecycle live) committed (configuration ▸ present)

theorem PortRecord.DeviceBound.of_not_live (fenced : record.lifecycle.isLive = false) :
    record.DeviceBound := by
  intro live
  simp [fenced] at live

theorem PortRecord.recovered_deviceBound : record.recovered.DeviceBound := by
  intro live committed present
  have configuration : record.recoverOwnership.recoverEvidence.configuration =
      record.recovered.configuration := by
    simp only [recovered, recoverLifecycle]
    split <;> rfl
  rw [present] at configuration
  simp only [recovered, recoverLifecycle, configuration] at live
  split at live
  · cases live
  · next retired =>
      simp only [Option.isSome_some, true_and, ne_eq, Decidable.not_not] at retired
      rw [retired] at live
      cases live

end Writers

section Builders

variable {input : MutationBuildInput} {plan : MutationPlan}

private theorem reconfigured_deviceBound {current : PortRecord} {configuration : PortConfiguration}
    {reason detail : Text} (same : configuration.deviceGeneration = current.generations.device) :
    (current.reconfigured configuration reason detail).DeviceBound := by
  intro _ committed present
  cases present
  exact same.symm

/-- Every builder but the reconciliation keeps a record bound to its device generation. -/
theorem Mutation.build_deviceBound {mutation : Mutation} (built : mutation.build input = .ok plan)
    (other : mutation.kind ≠ .reconcile) (bound : input.current.DeviceBound)
    (gated : toleratesReplacedDevice mutation.kind = false →
      ∀ generation, input.parentDeviceGeneration = some generation →
        generation = input.current.generations.device) : plan.next.DeviceBound := by
  by_cases reports : writesConfiguration mutation.kind = false
  · have reported := (Mutation.build_proposal built).reported reports
    exact bound.congr reported.live reported.configuration reported.device
  · cases mutation with
    | configure request =>
        obtain ⟨configuration, _, device, _, _, _, rfl⟩ := buildConfigure_ok built
        intro _ committed present
        cases present
        exact (gated rfl _ device).symm
    | reconfigure request =>
        obtain ⟨_, configuration, _, _, device, _, _, _, _, next⟩ := buildReconfigure_ok built
        rw [next]
        exact reconfigured_deviceBound (gated rfl _ device)
    | administrative request =>
        obtain ⟨committed, configuration, present, live, _, rfl, _, next⟩ :=
          buildAdministrative_ok built
        rw [next]
        intro _ stored found
        cases found
        exact bound live committed present
    | assignProfile request =>
        obtain ⟨_, _, configuration, _, _, _, device, _, ⟨_, next⟩, _⟩ :=
          buildAssignProfile_ok built
        rw [next]
        exact reconfigured_deviceBound (gated rfl _ device)
    | reconcile request => exact absurd rfl other
    | bindCapabilities | supersede | retire | claimOwnership | transferOwnership
    | releaseOwnership | recordAppliedEvidence | observeExternalState => exact absurd rfl reports

/-- A reconciled record is bound to its device generation when the device was not replaced. -/
theorem buildReconcile_deviceBound_iff {request : ReconcileRequest}
    (built : buildReconcile input request = .ok plan) :
    plan.next.DeviceBound ↔
      input.parentDeviceGeneration = some input.current.generations.device := by
  obtain ⟨_, configuration, _, device, _, next, _⟩ := buildReconcile_ok built
  rw [next, device, Option.some.injEq]
  constructor
  · intro bound
    exact (bound rfl _ rfl).symm
  · intro same
    exact reconfigured_deviceBound same

end Builders

section Steps

variable {runtime : Runtime} {impl : EngineImpl}

theorem RecordsEffect.deviceBound {operation : Operation} {before after : RecordMap}
    (effect : RecordsEffect operation before after)
    (every : OrderedMap.Every (fun _ record => record.DeviceBound) before) :
    OrderedMap.Every (fun _ record => record.DeviceBound) after := by
  cases effect with
  | unchanged => exact every
  | bound requested absent named validated => exact every.insert (.of_not_live rfl)
  | released held texts =>
      refine every.map fun port record bound => ?_
      split
      · exact bound.congr id rfl rfl
      · exact bound

section Commit

variable {answers : MutationAnswers} {snapshot final : PortRecord} {plan : MutationPlan}

theorem Commits.deviceBound {mutation : Mutation}
    (commits : Commits runtime mutation answers impl snapshot plan final)
    (other : mutation.kind ≠ .reconcile) (bound : snapshot.DeviceBound) : final.DeviceBound := by
  obtain ⟨_, _, gated, _⟩ := planMutation_ok commits.planned
  obtain ⟨_, proposal, _, _, _, built, _, rfl, _⟩ := commits.spec
  have next : proposal.next.DeviceBound :=
    Mutation.build_deviceBound built other bound
      (fun strict _ recorded => deviceGate_ok gated recorded strict)
  exact next.congr id rfl rfl

variable {request : ReconcileRequest}

/-- The generation the device table records for the device of a record. -/
abbrev EngineImpl.recordedGeneration (impl : EngineImpl) (record : PortRecord) :
    Option DeviceGeneration :=
  (readContext impl record).deviceGeneration

theorem Commits.reconcile_deviceBound_iff
    (commits : Commits runtime (.reconcile request) answers impl snapshot plan final) :
    final.DeviceBound ↔ impl.recordedGeneration snapshot = some snapshot.generations.device := by
  obtain ⟨_, proposal, _, _, _, built, _, rfl, _⟩ := commits.spec
  rw [EngineImpl.recordedGeneration, ← buildReconcile_deviceBound_iff built]
  exact ⟨fun bound => bound.congr id rfl rfl, fun bound => bound.congr id rfl rfl⟩

theorem Commits.reconcile_frame
    (commits : Commits runtime (.reconcile request) answers impl snapshot plan final) :
    final.parentDevice = snapshot.parentDevice ∧
      final.generations.device = snapshot.generations.device := by
  obtain ⟨_, proposal, _, _, _, built, _, rfl, _⟩ := commits.spec
  obtain ⟨_, _, _, _, _, next, _⟩ := buildReconcile_ok built
  simp only [PortRecord.settledWith, stampPlan, next]
  exact ⟨rfl, rfl⟩

end Commit

/-- A reconciliation that commits finds its port bound to the recorded device generation. -/
def ReconcilesInPlace (runtime : Runtime) (impl : EngineImpl) : Operation → Prop
  | .mutate (.reconcile request) answers =>
      ∀ snapshot plan final,
        Commits runtime (.reconcile request) answers impl snapshot plan final →
          impl.recordedGeneration snapshot = some snapshot.generations.device
  | _ => True

/--
After a reconciliation that commits, the record is bound to the recorded device
generation, and no mutation that names this generation is stale.
-/
def ReconcilesToCurrent (runtime : Runtime) (impl : EngineImpl) : Operation → Prop
  | .mutate (.reconcile request) answers =>
      ∀ snapshot plan final,
        Commits runtime (.reconcile request) answers impl snapshot plan final →
          let after := impl.perform runtime (.mutate (.reconcile request) answers)
          ∃ generation,
            after.records[request.envelope.port]? = some final ∧
            after.recordedGeneration final = some generation ∧
            final.generations.device = generation ∧
            ∀ mutation : Mutation, mutation.authority.expectedDevice = generation →
              deviceGate mutation final (readContext after final) = .ok ()
  | _ => True

theorem deviceGate_of_bound {mutation : Mutation} {record : PortRecord} {context : MutationContext}
    (recorded : context.deviceGeneration = some record.generations.device)
    (expected : mutation.authority.expectedDevice = record.generations.device) :
    deviceGate mutation record context = .ok () := by
  simp [deviceGate, recorded, expected]

/-- A reconciliation in place leaves the record current. -/
theorem ReconcilesInPlace.toCurrent {operation : Operation}
    (inPlace : ReconcilesInPlace runtime impl operation) :
    ReconcilesToCurrent runtime impl operation := by
  unfold ReconcilesToCurrent
  split
  · next request answers =>
      intro snapshot plan final commits
      obtain ⟨records, devices⟩ := commits.after_eq
      obtain ⟨device, generation⟩ := commits.reconcile_frame
      have recorded :
          (impl.perform runtime (.mutate (.reconcile request) answers)).recordedGeneration final =
            some final.generations.device := by
        rw [generation, ← inPlace snapshot plan final commits]
        simp only [EngineImpl.recordedGeneration, readContext, EngineImpl.perform, devices, device]
      refine ⟨_, ?_, recorded, rfl, fun mutation expected => deviceGate_of_bound recorded expected⟩
      simp only [EngineImpl.perform, records]
      exact OrderedMap.lookup_insert_self ..
  · trivial

theorem EngineImpl.mutate_deviceBound_iff (bound : impl.DeviceBound) (mutation : Mutation)
    (answers : MutationAnswers) :
    (executeMutation runtime mutation answers impl).1.DeviceBound ↔
      ReconcilesInPlace runtime impl (.mutate mutation answers) := by
  unfold EngineImpl.DeviceBound at bound ⊢
  have effect := executeMutation_records runtime mutation answers impl
  generalize (executeMutation runtime mutation answers impl).1.records = after at effect ⊢
  cases effect with
  | unrecorded uncommitted _ =>
      refine iff_of_true bound ?_
      unfold ReconcilesInPlace
      split
      · next same =>
          cases same
          exact fun _ _ _ commits => absurd commits (uncommitted _ _ _)
      · trivial
  | @committed snapshot final plan commits =>
      have before : snapshot.DeviceBound := bound _ _ commits.toPlanned.snapshot_found
      by_cases reconcile : mutation.kind = .reconcile
      · cases mutation with
        | reconcile request =>
            constructor
            · intro held _ _ _ again
              obtain ⟨rfl, rfl, rfl⟩ := commits.unique again
              exact commits.reconcile_deviceBound_iff.mp
                (held _ _ (OrderedMap.lookup_insert_self ..))
            · intro inPlace
              exact bound.insert (commits.reconcile_deviceBound_iff.mpr
                (inPlace _ _ _ commits))
        | _ => cases reconcile
      · refine iff_of_true (bound.insert (commits.deviceBound reconcile before)) ?_
        unfold ReconcilesInPlace
        split
        · next same =>
            cases same
            exact absurd rfl reconcile
        · trivial
  | @doubted snapshot plan generation detail doubts =>
      refine iff_of_true (bound.insert (.of_not_live (PortRecord.uncertain_not_live ..))) ?_
      unfold ReconcilesInPlace
      split
      · next same =>
          cases same
          exact fun _ _ _ commits => (commits.not_doubts doubts).elim
      · trivial

theorem EngineImpl.perform_deviceBound_iff (bound : impl.DeviceBound) (operation : Operation) :
    (impl.perform runtime operation).DeviceBound ↔ ReconcilesInPlace runtime impl operation := by
  cases operation with
  | mutate mutation answers => exact impl.mutate_deviceBound_iff bound mutation answers
  | load container =>
      refine iff_of_true ?_ trivial
      rcases load_records runtime impl container with same | recovered
      · unfold EngineImpl.DeviceBound at bound ⊢
        rw [EngineImpl.perform, same]
        exact bound
      · refine recovered.imp fun _ record restored => ?_
        obtain ⟨⟨persisted, rfl⟩, _⟩ := restored
        exact PortRecord.recovered_deviceBound
  | bindPort | defineProfile | beginEpoch | registerPublisher | fencePublisher | registerDevice
  | setTopologyGeneration | save | shutdown =>
      exact iff_of_true ((perform_records (by simp) rfl).deviceBound bound) trivial

end Steps

/--
Along a run on a fresh engine, live records stay bound and every reconciliation
leaves its record current exactly when every reconciliation is made in place.
-/
theorem device_bound_throughout_iff (runtime : Runtime) (operations : List Operation) :
    (Runs.Throughout (EngineImpl.perform runtime) EngineImpl.DeviceBound
        (.initial runtime.config) operations ∧
      Runs.Along (EngineImpl.perform runtime) (ReconcilesToCurrent runtime)
        (.initial runtime.config) operations) ↔
      Runs.Along (EngineImpl.perform runtime) (ReconcilesInPlace runtime)
        (.initial runtime.config) operations := by
  have initially : (EngineImpl.initial runtime.config).DeviceBound := OrderedMap.Every.empty
  rw [Runs.throughout_iff_along_of_step
    (fun impl operation bound => impl.perform_deviceBound_iff bound operation) initially]
  exact ⟨And.left, fun along => ⟨along, along.imp fun _ _ inPlace => inPlace.toCurrent⟩⟩

namespace ReplacedDevice

def port : PortId := "syn-sw1-p01"

def envelope (attempt : MutationAttemptId) : MutationEnvelope :=
  Fixture.envelope port "agent-a" "boot-a" attempt .first

/-- A configured port is reconciled after its device was replaced. -/
def operations : List Operation :=
  [ Fixture.bind port "bind-1",
    .mutate (Fixture.claim (envelope "claim-1") "owner-a") {},
    .mutate (Fixture.configuration (envelope "configure-1")) Fixture.verified,
    .registerDevice Fixture.device (.next .first) [],
    .mutate (.reconcile { envelope := Fixture.expecting (envelope "reconcile-1") .first })
      Fixture.verified ]

set_option maxRecDepth 100000 in
/-- The reconciled record is live, its configuration names generation 2, and it is bound to 1. -/
theorem deviceBound_broken :
    ¬(EngineImpl.after Fixture.runtime operations).DeviceBound := by
  have reconciled : ((EngineImpl.after Fixture.runtime operations).records[port]?).map
      (fun record => (record.lifecycle.isLive, record.generations.device,
        record.configuration.map PortConfiguration.deviceGeneration)) =
        some (true, .ofNat 1, some (.ofNat 2)) := by
    decide +kernel
  obtain ⟨record, found, shape⟩ := Option.map_eq_some_iff.mp reconciled
  simp only [Prod.mk.injEq, Option.map_eq_some_iff] at shape
  obtain ⟨live, device, configuration, present, replaced⟩ := shape
  intro bound
  have same := bound port record found live configuration present
  rw [device, replaced] at same
  revert same
  decide

end ReplacedDevice

end PortFabric
