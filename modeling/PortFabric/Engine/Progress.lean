import PortFabric.Engine.Acceptance

/-!
# Progress

The requests that repair a port: what a caller who may act on the record can do
to it when the adapter reports success.
-/

set_option autoImplicit false

namespace PortFabric

open Checks

/-- The adapter applies and the readback agrees. -/
def MutationAnswers.successful (provider : ProviderAnswer) : MutationAnswers where
  provider
  apply := { status := .applied }
  readback := { status := .verified }

theorem applyPlan_successful (runtime : Runtime) (snapshot : PortRecord) (plan : MutationPlan)
    (provider : ProviderAnswer) :
    ∃ proposal applied settled,
      applyPlan runtime snapshot plan (.successful provider) =
        .commit proposal applied settled := by
  unfold applyPlan
  split
  · exact ⟨_, _, _, rfl⟩
  · split
    · exact ⟨_, _, _, rfl⟩
    · split
      · exact ⟨_, _, _, rfl⟩
      · simp only [MutationAnswers.successful]
        split
        · exact ⟨_, _, _, rfl⟩
        · exact ⟨_, _, _, rfl⟩

/-- A successful apply settles the drift. -/
def Runtime.verifies (runtime : Runtime) : Bool :=
  runtime.adapter.isSome && runtime.config.adapterPolicy = .applyAndVerify

/-- The drift an adapter that reports success leaves behind. -/
def MutationPlan.settledDrift (runtime : Runtime) (plan : MutationPlan) : DriftState :=
  if plan.requiresApply && runtime.verifies then .inSync else plan.next.drift

/-- An adapter that reports success settles the drift exactly when the engine verifies. -/
theorem applyPlan_successful_drift {runtime : Runtime} {snapshot : PortRecord}
    {plan proposal : MutationPlan} {provider : ProviderAnswer} {applied : AppliedEvidence}
    {settled : Bool}
    (decided : applyPlan runtime snapshot plan (.successful provider) =
      .commit proposal applied settled) :
    (EngineImpl.committedRecord proposal applied settled).drift =
      plan.settledDrift runtime := by
  unfold MutationPlan.settledDrift
  have settles {given : AppliedEvidence}
      (decided : settlePlan plan given = .commit proposal applied settled) :
      (EngineImpl.committedRecord proposal applied settled).drift =
        if given.outcome = .verified then .inSync
        else if given.outcome = .applyFailed then .drifted
        else if given.outcome = .outcomeUnknown then .revalidationRequired
        else plan.next.drift := by
    simp only [settlePlan, ApplyDecision.commit.injEq] at decided
    obtain ⟨rfl, rfl, rfl⟩ := decided
    rfl
  unfold applyPlan at decided
  split at decided
  · next unapplied =>
      cases decided
      rw [Bool.not_eq_true'] at unapplied
      rw [unapplied]
      rfl
  · next applies =>
      have required : plan.requiresApply = true := by simpa using applies
      rw [required, Bool.true_and]
      unfold Runtime.verifies
      split at decided
      · next desired =>
          cases decided
          simp [desired, EngineImpl.committedRecord]
      · split at decided
        · next absent =>
            rw [settles decided, absent]
            rfl
        · next label present =>
            simp only [MutationAnswers.successful] at decided
            rw [present]
            split at decided
            · next verify =>
                rw [settles decided, verify]
                rfl
            · next verify =>
                rw [settles decided]
                simp [verify]

/-- The state after the one before, with the record of the port replaced. -/
structure EngineImpl.Replaces (impl : EngineImpl) (port : PortId) (final : PortRecord)
    (after : EngineImpl) : Prop where
  records : after.records = impl.records.insert port final
  generation : after.generation = impl.generation.next
  publishers : after.publishers = impl.publishers
  devices : after.devices = impl.devices
  profiles : after.profiles = impl.profiles
  topology : after.topology = impl.topology
  epoch : after.epoch = impl.epoch
  shuttingDown : after.shuttingDown = impl.shuttingDown

theorem EngineImpl.Replaces.found {impl after : EngineImpl} {port : PortId} {final : PortRecord}
    (replaces : impl.Replaces port final after) : after.records[port]? = some final := by
  rw [replaces.records]
  exact OrderedMap.lookup_insert_self ..

/-- The engine generation can advance this many times. -/
def EngineImpl.HasRoom (impl : EngineImpl) (count : Nat) : Prop :=
  impl.generation.value + count ≤ maxU64

theorem EngineImpl.HasRoom.advances {impl : EngineImpl} {count : Nat}
    (room : impl.HasRoom (count + 1)) : impl.generation.exhaustible = false := by
  unfold HasRoom at room
  simp only [Generation.exhaustible, decide_eq_false_iff_not]
  omega

theorem EngineImpl.Replaces.hasRoom {impl after : EngineImpl} {port : PortId} {final : PortRecord}
    {count : Nat} (replaces : impl.Replaces port final after) (room : impl.HasRoom (count + 1)) :
    after.HasRoom count := by
  unfold HasRoom at room ⊢
  rw [replaces.generation, Generation.next]
  split
  · omega
  · dsimp only
    omega

theorem EngineImpl.Addresses.replaces {runtime : Runtime} {impl : EngineImpl}
    {mutation : Mutation} {record : PortRecord} {plan : MutationPlan} {provider : ProviderAnswer}
    (addresses : impl.Addresses mutation record) (wellFormed : impl.WellFormed)
    (running : impl.shuttingDown = false) (room : impl.generation.exhaustible = false)
    (planned : planMutation runtime mutation provider impl = .ok (record, plan)) :
    ∃ applied evidence,
      impl.Replaces mutation.port
        (plan.next.settledWith applied (plan.settledDrift runtime) evidence)
        (impl.perform runtime (.mutate mutation (.successful provider))) := by
  obtain ⟨proposal, given, settled, decided⟩ := applyPlan_successful runtime record plan provider
  obtain ⟨applied, drift, evidence, final, _⟩ := (applyPlan_commit decided).final
  have settles := applyPlan_successful_drift decided
  rw [final] at settles
  obtain rfl : drift = plan.settledDrift runtime := settles
  have plans : planMutation runtime mutation (MutationAnswers.successful provider).provider impl =
      .ok (record, plan) := planned
  have stored := addresses.commitRecord_eq plans decided room
  rw [final] at stored
  refine ⟨applied, evidence, ?_⟩
  rw [perform, addresses.executeMutation_commit wellFormed running plans decided, commit, stored]
  obtain ⟨_, same⟩ := persistLockedState_eq runtime (MutationAnswers.successful provider).store
    (impl.replaceRecord mutation.port record
      (plan.next.settledWith applied (plan.settledDrift runtime) evidence))
  dsimp only
  rw [same]
  exact ⟨rfl, rfl, rfl, rfl, rfl, rfl, rfl, rfl⟩

/-- An attempt identity the record does not answer. -/
def PortRecord.unusedAttempt (record : PortRecord) : MutationAttemptId :=
  if record.lastMutation.attempt = ("attempt-a" : MutationAttemptId) then "attempt-b"
  else "attempt-a"

theorem PortRecord.unusedAttempt_valid (record : PortRecord) :
    record.unusedAttempt.valid = true := by
  unfold unusedAttempt
  split
  · rfl
  · rfl

theorem PortRecord.unusedAttempt_ne (record : PortRecord) :
    record.unusedAttempt ≠ record.lastMutation.attempt := by
  unfold unusedAttempt
  split
  · next used =>
      rw [used]
      decide
  · next unused => exact fun same => unused same.symm

/-- The incarnation has mutation authority over the record. -/
def PortRecord.entitles (record : PortRecord) (caller : Incarnation) (epoch : CoordinatorEpoch) :
    Bool :=
  match record.ownership with
  | none => record.configuration.isNone
  | some ownership => ownership.heldBy caller.1 caller.2 epoch

/-- A live caller that may act on a record that is not retired. -/
structure EngineImpl.Manages (runtime : Runtime) (impl : EngineImpl) (caller : Incarnation)
    (record : PortRecord) : Prop where
  wellFormed : impl.WellFormed
  running : impl.shuttingDown = false
  found : impl.records[record.port]? = some record
  standing : record.lifecycle ≠ .retired
  alive : impl.Alive caller.1 caller.2
  entitled : runtime.config.requireOwnership = true → record.entitles caller impl.epoch = true

/-- The envelope of the next request of the caller on the record. -/
def EngineImpl.envelopeFor (impl : EngineImpl) (caller : Incarnation) (record : PortRecord) :
    MutationEnvelope where
  authority :=
    { epoch := impl.epoch
      publisher := caller.1
      boot := caller.2
      expectedConfiguration := record.generations.configuration
      attempt := record.unusedAttempt }
  port := record.port

theorem EngineImpl.Addresses.of_envelope {impl : EngineImpl} {caller : Incarnation}
    {record : PortRecord} {mutation : Mutation}
    (sent : mutation.envelope = impl.envelopeFor caller record)
    (found : impl.records[record.port]? = some record) (standing : record.lifecycle ≠ .retired)
    (alive : impl.Alive caller.1 caller.2) : impl.Addresses mutation record where
  found := by
    rw [Mutation.port, sent]
    exact found
  standing
  alive := by
    rw [Mutation.authority, sent]
    exact alive
  current := by
    rw [Mutation.authority, sent]
    rfl
  attempt := by
    rw [Mutation.attempt, Mutation.authority, sent]
    exact record.unusedAttempt_valid
  fresh := by
    rw [Mutation.attempt, Mutation.authority, sent]
    exact record.unusedAttempt_ne

section Requests

variable {runtime : Runtime} {impl : EngineImpl} {caller : Incarnation} {record : PortRecord}
  {mutation : Mutation}

theorem EngineImpl.Manages.addresses (manages : impl.Manages runtime caller record)
    (sent : mutation.envelope = impl.envelopeFor caller record) :
    impl.Addresses mutation record :=
  .of_envelope sent manages.found manages.standing manages.alive

theorem ownershipGate_of_envelope (sent : mutation.envelope = impl.envelopeFor caller record)
    (entitled : runtime.config.requireOwnership = true →
      record.entitles caller impl.epoch = true) :
    ownershipGate runtime.config mutation record = .ok () := by
  cases required : runtime.config.requireOwnership with
  | false => simp [ownershipGate, required]
  | true =>
      have entitled := entitled required
      unfold PortRecord.entitles at entitled
      cases owned : record.ownership with
      | none =>
          simp only [owned, Option.isNone_iff_eq_none] at entitled
          simp [ownershipGate, owned, entitled]
      | some held =>
          simp only [owned] at entitled
          simp [ownershipGate, owned, Mutation.authority, sent, EngineImpl.envelopeFor, entitled]

/-- What the envelope expects of the record is what the caller sees: only ownership decides. -/
theorem snapshotGates_of_envelope (sent : mutation.envelope = impl.envelopeFor caller record)
    (owned : ownershipGate runtime.config mutation record = .ok ()) :
    snapshotGates runtime.config mutation record = .ok () := by
  have capability : expectCapability mutation record = .ok () := by
    simp [expectCapability, Mutation.authority, sent, EngineImpl.envelopeFor]
  have configuration : expectConfiguration mutation record = .ok () := by
    simp [expectConfiguration, Mutation.authority, sent, EngineImpl.envelopeFor]
  simp only [snapshotGates, capability, configuration, owned, ok_bind]

theorem EngineImpl.Manages.gated (manages : impl.Manages runtime caller record)
    (sent : mutation.envelope = impl.envelopeFor caller record) :
    snapshotGates runtime.config mutation record = .ok () :=
  snapshotGates_of_envelope sent (ownershipGate_of_envelope sent manages.entitled)

/-- Past the gates, what is sent is decided by the evidence and the builder. -/
theorem EngineImpl.Addresses.acts (addresses : impl.Addresses mutation record)
    (sent : mutation.envelope = impl.envelopeFor caller record) (wellFormed : impl.WellFormed)
    (running : impl.shuttingDown = false)
    {provider : ProviderAnswer} {capability : CapabilityBinding} {proposal : MutationPlan}
    (gated : snapshotGates runtime.config mutation record = .ok ())
    (passes : deviceGate mutation record (readContext impl record) = .ok ())
    (evident : evidenceFor runtime mutation record provider = .ok capability)
    (built : mutation.build
      { current := record, topology := impl.topology,
        parentDeviceGeneration := (readContext impl record).deviceGeneration, capability,
        profiles := impl.profiles } = .ok proposal)
    (validated : validatePlan record proposal = .ok ())
    (room : impl.generation.exhaustible = false) :
    ∃ applied evidence,
      impl.Replaces record.port
        ((stampPlan mutation proposal).next.settledWith applied (proposal.settledDrift runtime)
          evidence)
        (impl.perform runtime (.mutate mutation (.successful provider))) := by
  have planned : planMutation runtime mutation provider impl =
      .ok (record, stampPlan mutation proposal) := by
    have topology : mutation.authority.expectedTopology.valid = false := by
      rw [Mutation.authority, sent]
      rfl
    have context : (readContext impl record).topology = impl.topology := rfl
    rw [addresses.planMutation_eq topology gated]
    simp only [passes, ok_bind, preparePlan, evident, context, built, Except.mapError, validated]
    rfl
  have port : mutation.port = record.port := by
    rw [Mutation.port, sent]
    rfl
  rw [← port]
  exact addresses.replaces wellFormed running room planned

theorem EngineImpl.Manages.acts (manages : impl.Manages runtime caller record)
    (sent : mutation.envelope = impl.envelopeFor caller record)
    {provider : ProviderAnswer} {capability : CapabilityBinding} {proposal : MutationPlan}
    (passes : deviceGate mutation record (readContext impl record) = .ok ())
    (evident : evidenceFor runtime mutation record provider = .ok capability)
    (built : mutation.build
      { current := record, topology := impl.topology,
        parentDeviceGeneration := (readContext impl record).deviceGeneration, capability,
        profiles := impl.profiles } = .ok proposal)
    (validated : validatePlan record proposal = .ok ())
    (room : impl.generation.exhaustible = false) :
    ∃ applied evidence,
      impl.Replaces record.port
        ((stampPlan mutation proposal).next.settledWith applied (proposal.settledDrift runtime)
          evidence)
        (impl.perform runtime (.mutate mutation (.successful provider))) :=
  (manages.addresses sent).acts sent manages.wellFormed manages.running (manages.gated sent) passes
    evident built validated room

end Requests

/-- The operation is not a load, and the adapter reports success. -/
def Operation.Cooperates : Operation → Prop
  | .load _ => False
  | .mutate _ answers => ∃ provider, answers = .successful provider
  | .bindPort _ answers => ∃ provider, answers = .successful provider
  | _ => True

theorem Operation.Cooperates.isLoad {operation : Operation} (cooperates : operation.Cooperates) :
    operation.isLoad = false := by
  cases operation with
  | load container => cases cooperates
  | _ => rfl

/-- Runs of operations other than loads, with an adapter that reports success. -/
def EngineImpl.Leads (runtime : Runtime) (impl after : EngineImpl) : Prop :=
  Runs.Reaches (EngineImpl.perform runtime) Operation.Cooperates impl after

/-- Some such run configures the port. -/
def EngineImpl.ReachesConfigured (runtime : Runtime) (impl : EngineImpl) (port : PortId) : Prop :=
  ∃ after record, impl.Leads runtime after ∧ after.records[port]? = some record ∧
    record.lifecycle = .configured

theorem EngineImpl.Leads.mutate {runtime : Runtime} {impl : EngineImpl} (mutation : Mutation)
    (provider : ProviderAnswer) :
    impl.Leads runtime (impl.perform runtime (.mutate mutation (.successful provider))) := by
  have cooperates : (Operation.mutate mutation (.successful provider)).Cooperates := ⟨provider, rfl⟩
  exact .single cooperates

theorem EngineImpl.Leads.reachesConfigured {runtime : Runtime} {impl after : EngineImpl}
    {port : PortId} (leads : impl.Leads runtime after)
    (reaches : after.ReachesConfigured runtime port) : impl.ReachesConfigured runtime port := by
  obtain ⟨finish, record, onward, found, configured⟩ := reaches
  exact ⟨finish, record, leads.trans onward, found, configured⟩

/-- A request of the caller replaced the record, which the caller still manages. -/
structure EngineImpl.Proceeds (runtime : Runtime) (impl : EngineImpl) (caller : Incarnation)
    (record : PortRecord) (after : EngineImpl) (final : PortRecord) : Prop where
  leads : impl.Leads runtime after
  replaces : impl.Replaces record.port final after
  manages : after.Manages runtime caller final

/-- The record keeps its identity, its configuration and the generation of its device. -/
structure PortRecord.Keeps (record final : PortRecord) : Prop where
  port : final.port = record.port
  parentDevice : final.parentDevice = record.parentDevice
  configuration : final.configuration = record.configuration
  numbered : final.generations.configuration = record.generations.configuration
  device : final.generations.device = record.generations.device

section Steps

variable {runtime : Runtime} {impl : EngineImpl} {caller : Incarnation} {record : PortRecord}

theorem EngineImpl.Replaces.manages {after : EngineImpl} {final : PortRecord}
    (replaces : impl.Replaces record.port final after)
    (manages : impl.Manages runtime caller record) (wellFormed : after.WellFormed)
    (port : final.port = record.port) (standing : final.lifecycle ≠ .retired)
    (entitled : runtime.config.requireOwnership = true →
      final.entitles caller impl.epoch = true) : after.Manages runtime caller final where
  wellFormed
  running := replaces.shuttingDown.trans manages.running
  found := by
    rw [port]
    exact replaces.found
  standing
  alive := manages.alive.congr replaces.publishers
  entitled := by
    rw [replaces.epoch]
    exact entitled

/-- A request that is planned, and leaves the authority of the caller, brings the port on. -/
theorem EngineImpl.Manages.proceeds (manages : impl.Manages runtime caller record)
    {mutation : Mutation} (sent : mutation.envelope = impl.envelopeFor caller record)
    {provider : ProviderAnswer} {capability : CapabilityBinding} {proposal : MutationPlan}
    (passes : deviceGate mutation record (readContext impl record) = .ok ())
    (evident : evidenceFor runtime mutation record provider = .ok capability)
    (built : mutation.build
      { current := record, topology := impl.topology,
        parentDeviceGeneration := (readContext impl record).deviceGeneration, capability,
        profiles := impl.profiles } = .ok proposal)
    (validated : validatePlan record proposal = .ok ())
    (room : impl.generation.exhaustible = false)
    (port : proposal.next.port = record.port) (standing : proposal.next.lifecycle ≠ .retired)
    (entitled : runtime.config.requireOwnership = true →
      proposal.next.entitles caller impl.epoch = true) :
    ∃ after applied evidence,
      impl.Proceeds runtime caller record after
        ((stampPlan mutation proposal).next.settledWith applied (proposal.settledDrift runtime)
          evidence) := by
  obtain ⟨applied, evidence, replaces⟩ :=
    manages.acts sent passes evident built validated room
  exact ⟨_, applied, evidence, .mutate _ _, replaces,
    replaces.manages manages (manages.wellFormed.perform _) port standing entitled⟩

theorem PortRecord.Formed.fenced {lifecycle : PortLifecycle} {reason detail : Text}
    (formed : record.Formed) (fencing : lifecycle.isLive = false)
    (text : validateText reason maxNameLength = .ok ()) :
    (record.fenced lifecycle reason detail).Formed :=
  { formed with
    configuration := fun bound => by
      obtain ⟨committed, held⟩ := Option.isSome_iff_exists.mp bound
      have kept : record.configuration = some committed := held
      have same : (record.fenced lifecycle reason detail).validateConfiguration =
          record.validateConfiguration :=
        PortRecord.validateConfiguration_some kept rfl rfl rfl rfl
      exact same.trans (formed.configuration (by rw [kept]; rfl))
    live := fun live => by
      have same : (record.fenced lifecycle reason detail).lifecycle = lifecycle := rfl
      rw [same, fencing] at live
      cases live
    reason := text }

/-- A port can be superseded whatever happened to its device and its evidence. -/
theorem EngineImpl.Manages.supersedes (manages : impl.Manages runtime caller record)
    (current : record.lifecycle ≠ .superseded) (room : impl.generation.exhaustible = false) :
    ∃ after final, impl.Proceeds runtime caller record after final ∧ record.Keeps final ∧
      final.capability = record.capability ∧ final.lifecycle = .superseded := by
  have reason : validateText (text "SUPERSEDED") maxNameLength = .ok () := by decide
  have detail : validateText [] maxDescriptionLength = .ok () := by decide
  have formed : record.Formed := manages.wellFormed.formed _ _ manages.found
  have fenced : (record.fenced .superseded "SUPERSEDED" []).Formed := formed.fenced rfl reason
  have validated : (record.fenced .superseded "SUPERSEDED" []).validate = .ok () :=
    fenced.validate_iff.mpr ⟨.inr (.inr (.inr rfl)), detail⟩
  have evaluated : evaluateTransition record.lifecycle .supersede = .allow .superseded := by
    simp [evaluateTransition, manages.standing, current]
  let mutation : Mutation := .supersede { envelope := impl.envelopeFor caller record }
  let proposal : MutationPlan :=
    { expected := .capture record, next := record.fenced .superseded "SUPERSEDED" [] }
  have passes : deviceGate mutation record (readContext impl record) = .ok () := by
    unfold deviceGate
    split
    · rfl
    · rfl
  have evident : evidenceFor runtime mutation record {} = .ok {} := rfl
  have built : mutation.build
      { current := record, topology := impl.topology,
        parentDeviceGeneration := (readContext impl record).deviceGeneration, capability := {},
        profiles := impl.profiles } = .ok proposal := by
    simp [mutation, Mutation.build, buildFence, evaluated, TransitionEvaluation.allow, rejectIf]
    rfl
  have planned : validatePlan record proposal = .ok () := by
    simp [proposal, validatePlan, validated]
  obtain ⟨after, applied, evidence, proceeds⟩ :=
    manages.proceeds rfl passes evident built planned room rfl (fun retired => by cases retired)
      manages.entitled
  exact ⟨after, _, proceeds, ⟨rfl, rfl, rfl, rfl, rfl⟩, rfl, rfl⟩

/-- The bindings of a valid configuration can be replaced by valid ones. -/
theorem PortConfiguration.validate_rebound {configuration : PortConfiguration}
    {device : DeviceGeneration} {topology : TopologyGeneration}
    {capability : CapabilityBindingGeneration} {provenance : Provenance}
    (valid : configuration.validate = .ok ()) (deviceValid : device.valid = true)
    (topologyValid : topology.valid = true) (provenanceValid : provenance.valid = true) :
    ({ configuration with
        deviceGeneration := device
        topologyGeneration := topology
        capabilityGeneration := capability
        provenance } : PortConfiguration).validate = .ok () := by
  simp only [validate, within_eq_ok, require_eq_ok, refuseIf_eq_ok, and_true] at valid ⊢
  obtain ⟨identity, parent, _, _, generation, administrative, mode, protocol, speed, duplex, mtu,
    lanes, breakout, autoneg, fec, pause, aggregation, profile, _, rest⟩ := valid
  exact ⟨identity, parent, deviceValid, topologyValid, generation, administrative, mode, protocol,
    speed, duplex, mtu, lanes, breakout, autoneg, fec, pause, aggregation, profile,
    provenanceValid, rest⟩

theorem PortConfiguration.validate_renumbered {configuration : PortConfiguration}
    {generation : PortConfigurationGeneration} {evidence : EvidenceGeneration}
    (valid : configuration.validate = .ok ()) (generationValid : generation.valid = true) :
    ({ configuration with generation, evidenceGeneration := evidence }
      : PortConfiguration).validate = .ok () := by
  simp only [validate, within_eq_ok, require_eq_ok, refuseIf_eq_ok, and_true] at valid ⊢
  obtain ⟨identity, parent, device, topology, _, rest⟩ := valid
  exact ⟨identity, parent, device, topology, generationValid, rest⟩

theorem PortConfiguration.validate_readdressed {configuration : PortConfiguration} {port : PortId}
    {device : DeviceId} (valid : configuration.validate = .ok ()) (portValid : port.valid = true)
    (deviceValid : device.valid = true) :
    ({ configuration with port, parentDevice := device } : PortConfiguration).validate =
      .ok () := by
  simp only [validate, within_eq_ok, require_eq_ok, refuseIf_eq_ok, and_true, Bool.and_eq_true]
    at valid ⊢
  obtain ⟨⟨identity, _⟩, _, rest⟩ := valid
  exact ⟨⟨identity, portValid⟩, deviceValid, rest⟩

theorem validateAgainstCapabilities_present {configuration : PortConfiguration}
    {binding : CapabilityBinding}
    (supported : validateAgainstCapabilities configuration binding = .ok ()) :
    binding.present = true ∧ binding.generation.valid = true := by
  unfold validateAgainstCapabilities at supported
  dsimp only at supported
  split at supported
  · cases supported
  · next bound => simpa using bound

theorem validatePlan_ok {plan : MutationPlan} {configuration : PortConfiguration}
    (valid : plan.next.validate = .ok ())
    (configured : plan.next.configuration = some configuration)
    (supported : validateAgainstCapabilities configuration plan.capability = .ok ()) :
    validatePlan record plan = .ok () := by
  unfold validatePlan
  simp only [valid, configured, supported]
  split
  · rfl
  · rfl

theorem EngineImpl.Manages.provenance_valid (manages : impl.Manages runtime caller record)
    (fallback : ProvenanceKind) :
    (makeProvenance (impl.envelopeFor caller record) fallback).valid = true := by
  have epoch := (manages.wellFormed.alive_named manages.alive).2.2
  simp [makeProvenance, envelopeFor, Provenance.valid, epoch, record.unusedAttempt_valid,
    ProvenanceKind.isValid]

theorem PortRecord.Formed.committed_valid {committed : PortConfiguration} (formed : record.Formed)
    (configured : record.configuration = some committed) :
    committed.validate = .ok () ∧ committed.port = record.port ∧
      committed.parentDevice = record.parentDevice := by
  have consistent := formed.configuration (by rw [configured]; rfl)
  simp only [PortRecord.validateConfiguration, configured, within_eq_ok, refuseIf_eq_ok,
    decide_eq_false_iff_not, not_not] at consistent
  exact ⟨consistent.1, consistent.2.1, consistent.2.2.1⟩

theorem PortRecord.reconfigured_consistent {configuration : PortConfiguration}
    {evidence : EvidenceGeneration} {reason detail : Text}
    (valid : configuration.validate = .ok ()) (port : configuration.port = record.port)
    (device : configuration.parentDevice = record.parentDevice) :
    (record.reconfigured { configuration with evidenceGeneration := evidence } reason
      detail).validateConfiguration = .ok () := by
  have advanced : record.generations.configuration.advance.valid = true :=
    Generation.valid_advance _
  simp only [validateConfiguration, reconfigured, advanceConfigurationGeneration,
    advanceLifecycleGeneration, within_eq_ok, refuseIf_eq_ok]
  refine ⟨PortConfiguration.validate_renumbered valid advanced, ?_, ?_, ?_, trivial⟩
  · simp [port]
  · simp [device]
  · simp

theorem PortRecord.Formed.reconciled_validate {configuration : PortConfiguration}
    (formed : record.Formed) (valid : configuration.validate = .ok ())
    (port : configuration.port = record.port)
    (device : configuration.parentDevice = record.parentDevice) :
    (record.reconciled configuration []).validate = .ok () := by
  have reason : validateText (text "RECONCILED") maxNameLength = .ok () := by decide
  have detail : validateText [] maxDescriptionLength = .ok () := by decide
  have reconciled : (record.reconciled configuration []).Formed :=
    { formed with
      drift := rfl
      outcome := rfl
      configuration := fun _ => PortRecord.reconfigured_consistent valid port device
      live := fun _ => rfl
      reason }
  exact reconciled.validate_iff.mpr ⟨.inl rfl, detail⟩

/-- A reconciliation to these generations is not refused as current. -/
def PortRecord.Moves (record : PortRecord) (committed : PortConfiguration)
    (device : DeviceGeneration) (topology : TopologyGeneration)
    (capability : CapabilityBindingGeneration) : Prop :=
  record.lifecycle.requiresReconciliation = true ∨ record.drift = .drifted ∨
    record.drift = .revalidationRequired ∨ device ≠ committed.deviceGeneration ∨
    topology ≠ committed.topologyGeneration ∨ capability ≠ committed.capabilityGeneration

/-- What a reconciliation finds. -/
structure EngineImpl.Rebinds (runtime : Runtime) (impl : EngineImpl) (record : PortRecord)
    (committed : PortConfiguration) (provider : ProviderAnswer) (capability : CapabilityBinding)
    (device : DeviceGeneration) : Prop where
  configured : record.configuration = some committed
  registered : (readContext impl record).deviceGeneration = some device
  generation : device.valid = true
  topology : impl.topology.valid = true
  profile : committed.profile.defined impl.profiles = true
  resolved : resolveCapabilities runtime record provider = .ok capability
  supported : validateAgainstCapabilities committed capability = .ok ()
  moves : record.Moves committed device impl.topology capability.generation

/-- A port can be reconciled to whatever its device and its evidence are now. -/
theorem EngineImpl.Manages.reconciles {committed : PortConfiguration} {provider : ProviderAnswer}
    {capability : CapabilityBinding} {generation : DeviceGeneration}
    (manages : impl.Manages runtime caller record)
    (rebinds : impl.Rebinds runtime record committed provider capability generation)
    (room : impl.generation.exhaustible = false) :
    impl.ReachesConfigured runtime record.port := by
  have formed : record.Formed := manages.wellFormed.formed _ _ manages.found
  obtain ⟨valid, port, device⟩ := formed.committed_valid rebinds.configured
  have rebound : ({ committed with
      deviceGeneration := generation
      topologyGeneration := impl.topology
      capabilityGeneration := capability.generation
      provenance := makeProvenance (impl.envelopeFor caller record) .reconciliation
      : PortConfiguration }).validate = .ok () :=
    PortConfiguration.validate_rebound valid rebinds.generation rebinds.topology
      (manages.provenance_valid .reconciliation)
  have validated := formed.reconciled_validate rebound port device
  let mutation : Mutation := .reconcile { envelope := impl.envelopeFor caller record }
  have passes : deviceGate mutation record (readContext impl record) = .ok () := by
    unfold deviceGate
    split
    · rfl
    · rfl
  have evident : evidenceFor runtime mutation record provider = .ok capability := by
    simp [mutation, evidenceFor, Mutation.kind, needsConfigurationExpectation, rebinds.resolved]
  have moved : (!record.lifecycle.requiresReconciliation && decide (record.drift ≠ .drifted) &&
      decide (record.drift ≠ .revalidationRequired) &&
      !(decide (generation ≠ committed.deviceGeneration) ||
        decide (impl.topology ≠ committed.topologyGeneration) ||
        decide (capability.generation ≠ committed.capabilityGeneration))) = false := by
    rcases rebinds.moves with fenced | drifted | revalidated | replaced | moved | renewed
    · simp [fenced]
    · simp [drifted]
    · simp [revalidated]
    · simp [replaced]
    · simp [moved]
    · simp [renewed]
  have built : ∃ plan, mutation.build
      { current := record, topology := impl.topology,
        parentDeviceGeneration := (readContext impl record).deviceGeneration, capability,
        profiles := impl.profiles } = .ok plan ∧ validatePlan record plan = .ok () ∧
      plan.next.lifecycle = .configured := by
    simp only [mutation, Mutation.build, buildReconcile, rebinds.configured, rebinds.registered,
      demand, ok_bind, (validateAgainstCapabilities_present rebinds.supported).1, rebinds.profile,
      Bool.not_true, rejectIf, Bool.false_eq_true, if_false, rebound, rejectInvalid, moved]
    exact ⟨_, rfl, validatePlan_ok validated rfl rebinds.supported, rfl⟩
  obtain ⟨plan, built, planned, configured⟩ := built
  obtain ⟨applied, evidence, replaces⟩ :=
    manages.acts rfl passes evident built planned room
  exact ⟨_, _, .mutate _ _, replaces.found, configured⟩

theorem PortRecord.Formed.configured_validate {configuration : PortConfiguration}
    (formed : record.Formed) (valid : configuration.validate = .ok ())
    (port : configuration.port = record.port)
    (device : configuration.parentDevice = record.parentDevice)
    (numbered : record.generations.configuration.advance = configuration.generation) :
    (record.configured configuration).validate = .ok () := by
  have reason : validateText (text "CONFIGURED") maxNameLength = .ok () := by decide
  have detail : validateText [] maxDescriptionLength = .ok () := by decide
  have consistent : (record.configured configuration).validateConfiguration = .ok () := by
    simp only [PortRecord.validateConfiguration, PortRecord.configured,
      PortRecord.advanceConfigurationGeneration, PortRecord.advanceAdministrativeGeneration,
      PortRecord.advanceLifecycleGeneration, within_eq_ok, refuseIf_eq_ok]
    refine ⟨valid, ?_, ?_, ?_, trivial⟩
    · simp [port]
    · simp [device]
    · simp [numbered]
  have configured : (record.configured configuration).Formed :=
    { formed with
      drift := rfl
      outcome := rfl
      configuration := fun _ => consistent
      live := fun _ => rfl
      reason }
  exact configured.validate_iff.mpr ⟨.inl rfl, detail⟩

/-- A configuration any port can be given: enabled, and bound to no profile. -/
structure PortConfiguration.Plain (target : PortConfiguration) : Prop where
  valid : target.validate = .ok ()
  administrative : target.administrative = .enabled
  unbound : target.profile.bound = false

/-- The device of the port was not replaced since the port was bound. -/
def EngineImpl.DeviceUnreplaced (impl : EngineImpl) (record : PortRecord) : Prop :=
  ∀ binding, impl.devices[record.parentDevice]? = some binding →
    binding.generation = record.generations.device

theorem EngineImpl.DeviceUnreplaced.passes {mutation : Mutation}
    (unreplaced : impl.DeviceUnreplaced record)
    (sent : mutation.envelope = impl.envelopeFor caller record) :
    deviceGate mutation record (readContext impl record) = .ok () := by
  cases registered : impl.devices[record.parentDevice]? with
  | none => simp [deviceGate, readContext, registered]
  | some binding =>
      have same := unreplaced binding registered
      simp [deviceGate, readContext, registered, same, Mutation.authority, sent, envelopeFor]

/-- The device of the port is registered under the generation the port was bound to. -/
def EngineImpl.DeviceKept (impl : EngineImpl) (record : PortRecord) : Prop :=
  ∃ binding, impl.devices[record.parentDevice]? = some binding ∧
    binding.generation = record.generations.device ∧ binding.generation.valid = true

theorem EngineImpl.DeviceKept.unreplaced (kept : impl.DeviceKept record) :
    impl.DeviceUnreplaced record := by
  obtain ⟨binding, registered, same, _⟩ := kept
  intro other found
  rw [registered] at found
  cases found
  exact same

/-- The record with the evidence, when that supports its configuration. -/
def PortRecord.supportedBy (record : PortRecord) (evidence : CapabilityBinding) : PortRecord :=
  if record.configuration.isSome then { record.withEvidence evidence with drift := .unknown }
  else record.withEvidence evidence

theorem PortRecord.reexamined_supported {evidence : CapabilityBinding}
    (supported : ∀ committed, record.configuration = some committed →
      validateAgainstCapabilities committed evidence = .ok ()) :
    (record.withEvidence evidence).reexamined evidence = record.supportedBy evidence := by
  have kept : (record.withEvidence evidence).configuration = record.configuration := rfl
  unfold PortRecord.reexamined PortRecord.supportedBy
  rw [kept]
  cases configured : record.configuration with
  | none => rfl
  | some committed => simp [supported committed configured, kept, configured]

theorem PortRecord.Formed.supportedBy_validate {evidence : CapabilityBinding}
    (formed : record.Formed) (settled : record.Settled) (valid : evidence.valid = true) :
    (record.supportedBy evidence).validate = .ok () := by
  have reason : validateText (text "CAPABILITY_BOUND") maxNameLength = .ok () := by decide
  have detail : validateText [] maxDescriptionLength = .ok () := by decide
  have bound : (record.withEvidence evidence).Formed :=
    { formed with
      capability := valid
      configuration := fun bound => by
        obtain ⟨committed, held⟩ := Option.isSome_iff_exists.mp bound
        have kept : record.configuration = some committed := held
        have same : (record.withEvidence evidence).validateConfiguration =
            record.validateConfiguration :=
          PortRecord.validateConfiguration_some kept rfl rfl rfl rfl
        exact same.trans (formed.configuration (by rw [kept]; rfl))
      reason }
  unfold PortRecord.supportedBy
  split
  · have examined : ({ record.withEvidence evidence with drift := .unknown } : PortRecord).Formed :=
      { bound with
        drift := rfl
        configuration := bound.configuration }
    exact examined.validate_iff.mpr ⟨settled, detail⟩
  · exact bound.validate_iff.mpr ⟨settled, detail⟩

/-- While its device is the one it was bound to, a port can be given newer evidence. -/
theorem EngineImpl.Manages.binds {evidence : CapabilityBinding}
    (manages : impl.Manages runtime caller record) (unreplaced : impl.DeviceUnreplaced record)
    (settled : record.Settled) (present : evidence.present = true)
    (generation : evidence.generation.valid = true)
    (evidential : evidence.evidenceGeneration.valid = true)
    (legal : evidence.capabilities.validate = .ok ())
    (newer : record.capability.present = true → record.capability.generation < evidence.generation)
    (supported : ∀ committed, record.configuration = some committed →
      validateAgainstCapabilities committed evidence = .ok ())
    (room : impl.generation.exhaustible = false) :
    ∃ after final, impl.Proceeds runtime caller record after final ∧ record.Keeps final ∧
      final.capability = evidence ∧ final.lifecycle = record.lifecycle := by
  have formed : record.Formed := manages.wellFormed.formed _ _ manages.found
  let mutation : Mutation :=
    .bindCapabilities { envelope := impl.envelopeFor caller record, binding := evidence }
  let proposal : MutationPlan :=
    { expected := .capture record, next := record.supportedBy evidence }
  have evident : evidenceFor runtime mutation record {} = .ok {} := rfl
  have current : record.capability.present = true →
      ¬evidence.generation < record.capability.generation ∧
        evidence.generation ≠ record.capability.generation := by
    intro bound
    have less := newer bound
    exact ⟨Generation.not_lt.mpr (Generation.le_of_lt less), (Generation.ne_of_lt less).symm⟩
  have built : mutation.build
      { current := record, topology := impl.topology,
        parentDeviceGeneration := (readContext impl record).deviceGeneration, capability := {},
        profiles := impl.profiles } = .ok proposal := by
    simp only [mutation, Mutation.build, buildBindCapabilities, present, generation, evidential,
      Bool.not_true, Bool.or_false, rejectIf, Bool.false_eq_true, if_false, ok_bind, rejectInvalid,
      legal, PortRecord.reexamined_supported supported]
    cases bound : record.capability.present with
    | false => simp [proposal]
    | true =>
        obtain ⟨notOlder, notSame⟩ := current bound
        simp [notOlder, notSame, proposal]
  have valid : evidence.valid = true := by simp [CapabilityBinding.valid, generation, evidential]
  have planned : validatePlan record proposal = .ok () := by
    simp [proposal, validatePlan, formed.supportedBy_validate settled valid]
  have shape : record.Keeps (record.supportedBy evidence) ∧
      (record.supportedBy evidence).capability = evidence ∧
      (record.supportedBy evidence).lifecycle = record.lifecycle ∧
      (record.supportedBy evidence).ownership = record.ownership := by
    unfold PortRecord.supportedBy
    split
    · exact ⟨⟨rfl, rfl, rfl, rfl, rfl⟩, rfl, rfl, rfl⟩
    · exact ⟨⟨rfl, rfl, rfl, rfl, rfl⟩, rfl, rfl, rfl⟩
  obtain ⟨keeps, bound, standing, owned⟩ := shape
  have entitled : runtime.config.requireOwnership = true →
      proposal.next.entitles caller impl.epoch = true := by
    have same : (record.supportedBy evidence).entitles caller impl.epoch =
        record.entitles caller impl.epoch := by
      simp only [PortRecord.entitles, owned, keeps.configuration]
    exact fun required => same.trans (manages.entitled required)
  obtain ⟨after, applied, read, proceeds⟩ :=
    manages.proceeds rfl (unreplaced.passes rfl) evident built planned room keeps.port
      (fun retired => manages.standing (standing.symm.trans retired)) entitled
  exact ⟨after, _, proceeds, ⟨keeps.port, keeps.parentDevice, keeps.configuration, keeps.numbered,
    keeps.device⟩, bound, standing⟩

/-- What the caller asks for is completed to a valid configuration of its port. -/
theorem EngineImpl.Manages.placed_validate (manages : impl.Manages runtime caller record)
    (target : PortConfiguration) {device : DeviceGeneration} {topology : TopologyGeneration}
    {generation : PortConfigurationGeneration} {capability : CapabilityBindingGeneration}
    {evidence : EvidenceGeneration} {fallback : ProvenanceKind}
    (valid : target.validate = .ok ()) (deviceValid : device.valid = true)
    (topologyValid : topology.valid = true) (numbered : generation.valid = true) :
    ({ target with
        port := record.port
        parentDevice := record.parentDevice
        deviceGeneration := device
        topologyGeneration := topology
        generation
        capabilityGeneration := capability
        evidenceGeneration := evidence
        provenance := makeProvenance (impl.envelopeFor caller record) fallback
        } : PortConfiguration).validate = .ok () := by
  have formed : record.Formed := manages.wellFormed.formed _ _ manages.found
  have addressed : ({ target with port := record.port, parentDevice := record.parentDevice }
      : PortConfiguration).validate = .ok () :=
    PortConfiguration.validate_readdressed valid formed.port formed.device
  exact PortConfiguration.validate_renumbered
    (PortConfiguration.validate_rebound addressed deviceValid topologyValid
      (manages.provenance_valid fallback)) numbered

/-- An unconfigured port can be given any plain configuration that its evidence supports. -/
theorem EngineImpl.Manages.configures {target : PortConfiguration} {provider : ProviderAnswer}
    {capability : CapabilityBinding} (manages : impl.Manages runtime caller record)
    (plain : target.Plain) (resolved : resolveCapabilities runtime record provider = .ok capability)
    (supported : validateAgainstCapabilities target capability = .ok ())
    (unconfigured : record.lifecycle = .unconfigured)
    (unnumbered : record.generations.configuration = .null) (kept : impl.DeviceKept record)
    (topology : impl.topology.valid = true) (room : impl.generation.exhaustible = false) :
    impl.ReachesConfigured runtime record.port := by
  have formed : record.Formed := manages.wellFormed.formed _ _ manages.found
  obtain ⟨present, _⟩ := validateAgainstCapabilities_present supported
  let requested : PortConfiguration :=
    { target with port := record.port, parentDevice := record.parentDevice }
  let mutation : Mutation :=
    .configure { envelope := impl.envelopeFor caller record, configuration := requested }
  have passes : deviceGate mutation record (readContext impl record) = .ok () :=
    kept.unreplaced.passes (rfl : mutation.envelope = impl.envelopeFor caller record)
  obtain ⟨binding, registered, _, deviceValid⟩ := kept
  have identified : target.record.valid = true := by
    have valid := plain.valid
    simp only [PortConfiguration.validate, require_eq_ok, Bool.and_eq_true] at valid
    exact valid.1.1
  have complete : ({ requested with
      deviceGeneration := binding.generation
      topologyGeneration := impl.topology
      generation := .first
      capabilityGeneration := capability.generation
      evidenceGeneration := record.generations.evidence
      provenance := makeProvenance (impl.envelopeFor caller record) .operator
      : PortConfiguration }).validate = .ok () :=
    manages.placed_validate target plain.valid deviceValid topology rfl
  have evident : evidenceFor runtime mutation record provider = .ok capability := by
    simp [mutation, evidenceFor, Mutation.kind, needsConfigurationExpectation, resolved]
  have current : (readContext impl record).deviceGeneration = some binding.generation := by
    simp [readContext, registered]
  have built : ∃ plan, mutation.build
      { current := record, topology := impl.topology,
        parentDeviceGeneration := (readContext impl record).deviceGeneration, capability,
        profiles := impl.profiles } = .ok plan ∧
      validatePlan record plan = .ok () ∧ plan.next.lifecycle = .configured := by
    have named : configurationRecordFor record requested.record = target.record := by
      simp [configurationRecordFor, requested, identified]
    have defined : requested.profile.defined impl.profiles = true := by
      simp [ProfileBinding.defined, requested, plain.unbound]
    have advanced : record.generations.configuration.advance = .first := by
      rw [unnumbered]
      rfl
    have validated := formed.configured_validate complete rfl rfl advanced
    simp only [mutation, Mutation.build, buildConfigure, unconfigured, current, demand, ok_bind,
      present, Bool.not_true, rejectIf, Bool.false_eq_true, if_false, named, identified, defined,
      ne_eq, not_true_eq_false, decide_false, Bool.and_false, requested, plain.administrative,
      reduceCtorEq]
    simp only [requested, plain.administrative] at complete validated
    simp only [complete, rejectInvalid, ok_bind]
    exact ⟨_, rfl, validatePlan_ok validated rfl supported, rfl⟩
  obtain ⟨plan, built, planned, configured⟩ := built
  obtain ⟨applied, evidence, replaces⟩ :=
    manages.acts rfl passes evident built planned room
  exact ⟨_, _, .mutate _ _, replaces.found, configured⟩

theorem PortRecord.Formed.reconfigured_validate {configuration : PortConfiguration}
    (formed : record.Formed) (valid : configuration.validate = .ok ())
    (port : configuration.port = record.port)
    (device : configuration.parentDevice = record.parentDevice) :
    (record.reconfigured configuration "RECONFIGURED" []).validate = .ok () := by
  have reason : validateText (text "RECONFIGURED") maxNameLength = .ok () := by decide
  have detail : validateText [] maxDescriptionLength = .ok () := by decide
  have reconfigured : (record.reconfigured configuration "RECONFIGURED" []).Formed :=
    { formed with
      outcome := rfl
      configuration := fun _ => PortRecord.reconfigured_consistent valid port device
      live := fun _ => rfl
      reason }
  exact reconfigured.validate_iff.mpr ⟨.inl rfl, detail⟩

theorem PortConfiguration.validate_unprofiled {configuration : PortConfiguration}
    (valid : configuration.validate = .ok ()) :
    ({ configuration with profile := {} } : PortConfiguration).validate = .ok () := by
  simp only [validate, within_eq_ok, require_eq_ok, refuseIf_eq_ok, and_true] at valid ⊢
  obtain ⟨identity, parent, device, topology, generation, administrative, mode, protocol, speed,
    duplex, mtu, lanes, breakout, autoneg, fec, pause, aggregation, _, rest⟩ := valid
  exact ⟨identity, parent, device, topology, generation, administrative, mode, protocol, speed,
    duplex, mtu, lanes, breakout, autoneg, fec, pause, aggregation, rfl, rest⟩

/-- The configuration without its profile, under the current generations. -/
structure EngineImpl.Unprofiled (runtime : Runtime) (impl : EngineImpl) (record final : PortRecord)
    (committed configuration : PortConfiguration) (capability : CapabilityBinding) : Prop where
  port : final.port = record.port
  parentDevice : final.parentDevice = record.parentDevice
  evidence : final.capability = record.capability
  drift : final.drift = if runtime.verifies then .inSync else record.drift
  configured : final.configuration = some configuration
  profile : configuration.profile = {}
  device : configuration.deviceGeneration = record.generations.device
  topology : configuration.topologyGeneration = impl.topology
  capability : configuration.capabilityGeneration = capability.generation
  supported : ∀ evidence, validateAgainstCapabilities configuration evidence =
    validateAgainstCapabilities committed evidence

/-- A live configuration can be released from its profile. -/
theorem EngineImpl.Manages.unprofiles {committed : PortConfiguration} {provider : ProviderAnswer}
    {capability : CapabilityBinding} (manages : impl.Manages runtime caller record)
    (live : record.lifecycle.isLive = true) (configured : record.configuration = some committed)
    (bound : committed.profile.bound = true)
    (numbered : record.generations.configuration.valid = true)
    (resolved : resolveCapabilities runtime record provider = .ok capability)
    (supported : validateAgainstCapabilities committed capability = .ok ())
    (kept : impl.DeviceKept record) (topology : impl.topology.valid = true)
    (room : impl.generation.exhaustible = false) :
    ∃ after final configuration, impl.Proceeds runtime caller record after final ∧
      impl.Unprofiled runtime record final committed configuration capability := by
  have formed : record.Formed := manages.wellFormed.formed _ _ manages.found
  obtain ⟨valid, port, device⟩ := formed.committed_valid configured
  obtain ⟨present, _⟩ := validateAgainstCapabilities_present supported
  let requested : PortConfiguration := { committed with profile := {} }
  let mutation : Mutation :=
    .reconfigure { envelope := impl.envelopeFor caller record, configuration := requested }
  have passes : deviceGate mutation record (readContext impl record) = .ok () :=
    kept.unreplaced.passes (rfl : mutation.envelope = impl.envelopeFor caller record)
  obtain ⟨binding, registered, same, deviceValid⟩ := kept
  have current : (readContext impl record).deviceGeneration = some binding.generation := by
    simp [readContext, registered]
  let configuration : PortConfiguration :=
    { requested with
      port := record.port
      parentDevice := record.parentDevice
      deviceGeneration := binding.generation
      topologyGeneration := impl.topology
      generation := record.generations.configuration
      capabilityGeneration := capability.generation
      evidenceGeneration := record.generations.evidence
      provenance := makeProvenance (impl.envelopeFor caller record) .operator }
  have complete : configuration.validate = .ok () :=
    manages.placed_validate requested (PortConfiguration.validate_unprofiled valid) deviceValid
      topology numbered
  have changed : decide (({} : ProfileBinding) = committed.profile) = false := by
    refine decide_eq_false fun unbound => ?_
    rw [← unbound] at bound
    cases bound
  let next := record.reconfigured configuration "RECONFIGURED" []
  let proposal : MutationPlan :=
    configurationPlan
      { current := record, topology := impl.topology,
        parentDeviceGeneration := (readContext impl record).deviceGeneration, capability,
        profiles := impl.profiles }
      next { configuration with generation := next.generations.configuration }
  have validated : next.validate = .ok () := formed.reconfigured_validate complete rfl rfl
  have evident : evidenceFor runtime mutation record provider = .ok capability := by
    simp [mutation, evidenceFor, Mutation.kind, needsConfigurationExpectation, resolved]
  have built : mutation.build
      { current := record, topology := impl.topology,
        parentDeviceGeneration := (readContext impl record).deviceGeneration, capability,
        profiles := impl.profiles } = .ok proposal := by
    have defined : ProfileBinding.defined {} impl.profiles = true := rfl
    simp only [mutation, Mutation.build, buildReconfigure, configured, live, current, demand,
      dereference, ok_bind, present, Bool.not_true, rejectIf, Bool.false_eq_true, if_false,
      requested, port, ne_eq, not_true_eq_false, decide_false, Bool.and_false, ite_self, defined,
      changed]
    simp only [configuration, requested] at complete
    simp only [complete, rejectInvalid, ok_bind]
    rfl
  have entitled (required : runtime.config.requireOwnership = true) :
      proposal.next.entitles caller impl.epoch = true := by
    have held := manages.entitled required
    have owned : proposal.next.ownership = record.ownership := rfl
    unfold PortRecord.entitles at held ⊢
    rw [owned]
    cases owner : record.ownership with
    | none => simp [owner, configured] at held
    | some ownership => simpa [owner] using held
  obtain ⟨after, applied, evidence, proceeds⟩ :=
    manages.proceeds rfl passes evident built (validatePlan_ok validated rfl supported) room rfl
      manages.standing entitled
  refine ⟨after, _, { configuration with generation := record.generations.configuration.advance },
    proceeds, rfl, rfl, rfl, ?_, rfl, rfl, same, rfl, rfl, fun _ => rfl⟩
  rfl

end Steps

end PortFabric
