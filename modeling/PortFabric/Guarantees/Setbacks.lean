import PortFabric.Guarantees.Grounding

/-!
# Setbacks

No operation makes a port recoverable: whatever can be configured after it could
be configured before it, at the price of the generations it spent.
-/

set_option autoImplicit false

namespace PortFabric

open Checks PortFabricEngine

section Tables

variable {runtime : Runtime} {impl after : EngineImpl} {record : PortRecord}
  {bindings spent steps : Nat}

namespace EngineImpl

theorem Delegates.precedes (delegates : after.Delegates runtime record bindings steps)
    (precedes : impl.Precedes runtime after spent) :
    impl.Delegates runtime record (bindings + spent) steps := by
  cases delegates with
  | unchecked free => exact .unchecked free
  | unowned free unbound => exact .unowned free unbound
  | held owned seats => exact .held owned (precedes.seats _ seats)
  | claimed enough shared passes => exact .claimed enough shared (precedes.passes passes)
  | released enough advances unbound => exact .released enough (precedes.advances advances) unbound
  | reclaimed enough advances passes =>
      exact .reclaimed enough (precedes.advances advances) (precedes.passes passes)

theorem MovesOn.narrows (moves : after.MovesOn runtime record)
    (narrows : impl.Narrows runtime after spent) : impl.MovesOn runtime record := by
  refine moves.imp_right fun moves => moves.imp (fun advances => ?_) fun moves =>
    moves.imp_left fun device => ⟨device.1, Nat.le_trans narrows.devices.size_le device.2⟩
  have later : impl.topology.value ≤ after.topology.value := narrows.topology
  have bounded := after.topology.bounded
  simp only [Generation.exhaustible, decide_eq_false_iff_not] at advances ⊢
  omega

theorem Restores.narrows (restores : after.Restores runtime record bindings steps)
    (narrows : impl.Narrows runtime after spent) :
    impl.Restores runtime record (bindings + spent) steps := by
  cases restores with
  | first enough unconfigured unbound unnumbered device evident =>
      exact .first enough unconfigured unbound unnumbered (narrows.offers device) evident
  | reconciled enough configured profile evident supported offered oriented later moves =>
      exact .reconciled enough configured (narrows.profiles _ profile) evident supported
        (narrows.offers offered) oriented (Generation.le_trans narrows.topology later) moves
  | rebound enough fenced configured profile passes offered renewable supportable =>
      exact .rebound enough fenced configured (narrows.profiles _ profile)
        (narrows.passes passes) (narrows.offers offered) renewable supportable
  | unprofiled enough live configured device moves =>
      exact .unprofiled enough live configured (narrows.offers device)
        (moves.imp_left fun moves => moves.narrows narrows)

end EngineImpl

end Tables

section Records

variable {runtime : Runtime} {impl : EngineImpl} {record other : PortRecord}
  {committed : PortConfiguration} {bindings steps : Nat}

/-- The records agree on what the repair of a port depends on. -/
structure PortRecord.Alike (record other : PortRecord) : Prop where
  parentDevice : other.parentDevice = record.parentDevice
  device : other.generations.device = record.generations.device
  lifecycle : other.lifecycle = record.lifecycle
  configuration : other.configuration = record.configuration
  numbered : other.generations.configuration = record.generations.configuration
  capability : other.capability = record.capability
  drift : other.drift = record.drift

namespace PortRecord.Alike

theorem refl (record : PortRecord) : record.Alike record :=
  ⟨rfl, rfl, rfl, rfl, rfl, rfl, rfl⟩

theorem symm (alike : record.Alike other) : other.Alike record :=
  ⟨alike.parentDevice.symm, alike.device.symm, alike.lifecycle.symm, alike.configuration.symm,
    alike.numbered.symm, alike.capability.symm, alike.drift.symm⟩

theorem trans {last : PortRecord} (first : record.Alike other) (second : other.Alike last) :
    record.Alike last :=
  ⟨second.parentDevice.trans first.parentDevice, second.device.trans first.device,
    second.lifecycle.trans first.lifecycle, second.configuration.trans first.configuration,
    second.numbered.trans first.numbered, second.capability.trans first.capability,
    second.drift.trans first.drift⟩

theorem settled (alike : record.Alike other) (settled : record.Settled) : other.Settled := by
  unfold Settled at settled ⊢
  rwa [alike.configuration, alike.lifecycle]

end PortRecord.Alike

namespace EngineImpl

theorem OffersDevice.congr {generation : DeviceGeneration}
    (offers : impl.OffersDevice runtime other bindings generation)
    (same : other.parentDevice = record.parentDevice) :
    impl.OffersDevice runtime record bindings generation := by
  unfold OffersDevice at offers ⊢
  rwa [same] at offers

theorem PassesDevice.congr (passes : impl.PassesDevice runtime other bindings)
    (same : other.parentDevice = record.parentDevice)
    (device : other.generations.device = record.generations.device) :
    impl.PassesDevice runtime record bindings := by
  refine passes.imp (fun unreplaced => ?_) fun offers => ?_
  · unfold DeviceUnreplaced at unreplaced ⊢
    rwa [same, device] at unreplaced
  · rw [device] at offers
    exact offers.congr same

theorem Restores.alike (restores : impl.Restores runtime other bindings steps)
    (alike : record.Alike other) : impl.Restores runtime record bindings steps := by
  cases restores with
  | first enough unconfigured unbound unnumbered device evident =>
      rw [alike.device] at device
      refine .first enough (alike.lifecycle ▸ unconfigured) (alike.configuration ▸ unbound)
        (alike.numbered ▸ unnumbered) (device.congr alike.parentDevice) ?_
      refine evident.imp (fun found => ?_) fun later => ⟨later.1, ?_⟩
      · obtain ⟨target, capability, plain, evidenced, supported⟩ := found
        exact ⟨target, capability, plain, evidenced.congr alike.capability.symm, supported⟩
      · have renewable := later.2
        unfold PortRecord.Renewable at renewable ⊢
        rwa [alike.capability] at renewable
  | reconciled enough configured profile evident supported offered oriented later moves =>
      refine .reconciled enough (alike.configuration ▸ configured) profile
        (evident.congr alike.capability.symm) supported (offered.congr alike.parentDevice) oriented
        later ?_
      unfold PortRecord.Moves at moves ⊢
      rwa [alike.lifecycle, alike.drift] at moves
  | rebound enough fenced configured profile passes offered renewable supportable =>
      unfold PortRecord.Renewable at renewable
      rw [alike.capability] at renewable
      exact .rebound enough (alike.lifecycle ▸ fenced) (alike.configuration ▸ configured) profile
        (passes.congr alike.parentDevice alike.device) (offered.congr alike.parentDevice)
        renewable supportable
  | unprofiled enough live configured device moves =>
      rw [alike.device] at device
      refine .unprofiled enough (alike.lifecycle ▸ live) (alike.configuration ▸ configured)
        (device.congr alike.parentDevice) ?_
      unfold MovesOn at moves ⊢
      rwa [alike.drift, alike.device, alike.capability] at moves

theorem exists_later_topology (impl : EngineImpl) :
    ∃ topology : TopologyGeneration, topology.valid = true ∧ impl.topology ≤ topology ∧
      (impl.topology.exhaustible = false → topology.exhaustible = false) := by
  cases established : impl.topology.valid with
  | true => exact ⟨impl.topology, established, Generation.le_refl _, id⟩
  | false =>
      have null := Generation.eq_null_of_not_valid established
      exact ⟨.first, rfl, by rw [null]; exact Nat.zero_le _, fun _ => rfl⟩

end EngineImpl

theorem PortRecord.Backed.requiresReconciliation (backed : record.Backed runtime)
    (configured : record.configuration = some committed)
    (fenced : record.lifecycle.isLive = false) (standing : record.lifecycle ≠ .retired) :
    record.lifecycle.requiresReconciliation = true := by
  have placed := backed.placed (by rw [configured]; rfl)
  cases known : record.lifecycle with
  | unconfigured => exact absurd known placed
  | retired => exact absurd known standing
  | revalidationRequired | superseded | conflicted => rfl
  | configured | active | adminDisabled | draining | maintenance =>
      rw [known] at fenced
      cases fenced

/-- The record kept the configuration of a live one, and maybe not its standing. -/
theorem EngineImpl.Restores.while_live (restores : impl.Restores runtime other bindings steps)
    (backed : record.Backed runtime) (live : record.lifecycle.isLive = true)
    (configured : record.configuration = some committed)
    (kept : ∃ later, other.configuration = some later ∧ later.profile = committed.profile)
    (parentDevice : other.parentDevice = record.parentDevice)
    (device : other.generations.device = record.generations.device) :
    impl.Restores runtime record bindings (steps + 1) := by
  obtain ⟨capability, evident, supported⟩ := backed.supported live committed configured
  obtain ⟨later, held, same⟩ := kept
  cases restores with
  | first _ _ unbound _ _ _ =>
      rw [held] at unbound
      cases unbound
  | reconciled enough found profile _ _ offered oriented topology _ =>
      obtain rfl := Option.some.inj (held.symm.trans found)
      rw [same] at profile
      exact .reconciled (Nat.le_succ_of_le enough) configured profile evident supported
        (offered.congr parentDevice) oriented topology (.inr (Nat.succ_le_succ enough))
  | rebound enough _ found profile _ offered _ _ =>
      obtain rfl := Option.some.inj (held.symm.trans found)
      rw [same] at profile
      obtain ⟨topology, oriented, onward, _⟩ := impl.exists_later_topology
      exact .reconciled (by omega) configured profile evident supported
        (offered.congr parentDevice) oriented onward (.inr (by omega))
  | unprofiled enough _ _ offered _ =>
      rw [device] at offered
      exact .unprofiled (by omega) live configured (offered.congr parentDevice) (.inr (by omega))

/-- The record kept what a fenced one had, and no standing above it. -/
theorem EngineImpl.Restores.while_fenced (restores : impl.Restores runtime other bindings steps)
    (backed : record.Backed runtime) (fenced : record.lifecycle.isLive = false)
    (standing : record.lifecycle ≠ .retired) (dead : other.lifecycle.isLive = false)
    (untouched : other.lifecycle = .unconfigured → record.lifecycle = .unconfigured)
    (configuration : other.configuration = record.configuration)
    (numbered : other.generations.configuration = record.generations.configuration)
    (capability : other.capability = record.capability)
    (parentDevice : other.parentDevice = record.parentDevice)
    (device : other.generations.device = record.generations.device) :
    impl.Restores runtime record bindings steps := by
  cases restores with
  | first enough unconfigured unbound unnumbered offered evident =>
      have alike : record.Alike { other with drift := record.drift } :=
        ⟨parentDevice, device, unconfigured.trans (untouched unconfigured).symm, configuration,
          numbered, capability, rfl⟩
      have restores : impl.Restores runtime { other with drift := record.drift } bindings steps :=
        .first enough unconfigured unbound unnumbered offered evident
      exact restores.alike alike
  | reconciled enough configured profile evident supported offered oriented later _ =>
      have configured := configuration.symm.trans configured
      exact .reconciled enough configured profile (evident.congr capability.symm) supported
        (offered.congr parentDevice) oriented later
        (.inl (.inl (backed.requiresReconciliation configured fenced standing)))
  | rebound enough _ configured profile passes offered renewable supportable =>
      unfold PortRecord.Renewable at renewable
      rw [capability] at renewable
      exact .rebound enough fenced (configuration.symm.trans configured) profile
        (passes.congr parentDevice device) (offered.congr parentDevice) renewable supportable
  | unprofiled _ live _ _ _ =>
      rw [dead] at live
      cases live

end Records

section Answers

variable {runtime : Runtime} {impl : EngineImpl} {mutation : Mutation} {provider : ProviderAnswer}
  {snapshot final : PortRecord} {plan : MutationPlan}

theorem Commits.successful
    (commits : Commits runtime mutation (.successful provider) impl snapshot plan final) :
    ∃ (capability : CapabilityBinding) (proposal : MutationPlan) (applied : AppliedEvidence)
      (evidence : EvidenceGeneration),
      mutation.build
        { current := snapshot, topology := impl.topology,
          parentDeviceGeneration := (readContext impl snapshot).deviceGeneration, capability,
          profiles := impl.profiles } = .ok proposal ∧
      evidenceFor runtime mutation snapshot provider = .ok capability ∧
      validatePlan snapshot proposal = .ok () ∧
      final = (stampPlan mutation proposal).next.settledWith applied
        (proposal.settledDrift runtime) evidence := by
  obtain ⟨capability, proposal, _, _, _, built, consulted, validated, decided, settled⟩ :=
    commits.derivation
  obtain ⟨drift, evidence, same, _⟩ := applyPlan_settlement decided
  have drifted := applyPlan_successful_drift decided
  rw [← settled] at same drifted
  have settledDrift : final.drift = drift := congrArg PortRecord.drift same
  refine ⟨capability, proposal, final.applied, evidence, built, consulted, validated, ?_⟩
  exact same.trans (congrArg (PortRecord.settledWith _ _ · _) (settledDrift.symm.trans drifted))

end Answers

/-- The port can be brought to the configured standing in this many engine generations. -/
def EngineImpl.RestorableWithin (runtime : Runtime) (impl : EngineImpl) (record : PortRecord)
    (total : Nat) : Prop :=
  ∃ bindings steps, impl.Restores runtime record bindings steps ∧ bindings + steps ≤ total

theorem requiresReconciliation_not_live {lifecycle : PortLifecycle}
    (fenced : lifecycle.requiresReconciliation = true) : lifecycle.isLive = false := by
  revert fenced
  cases lifecycle <;> decide

theorem Generation.exhaustible_of_lt {domain : GenerationDomain}
    {former later : Generation domain}
    (newer : former < later) : former.exhaustible = false := by
  have less : former.value < later.value := newer
  have bounded := later.bounded
  simp only [Generation.exhaustible, decide_eq_false_iff_not]
  omega

section Builders

variable {input : MutationBuildInput} {plan : MutationPlan}

theorem buildConfigure_first {request : ConfigureRequest}
    (built : buildConfigure input request = .ok plan) :
    ∃ configuration : PortConfiguration, input.current.lifecycle = .unconfigured ∧
      input.parentDeviceGeneration = some configuration.deviceGeneration ∧
      configuration.generation = .first ∧ configuration.validate = .ok () ∧
      plan = configurationPlan input (input.current.configured configuration) configuration := by
  simp only [buildConfigure, bind_eq_ok, rejectIf_eq_ok, demand_eq_ok, rejectInvalid_eq_ok,
    pure_eq_ok] at built
  obtain ⟨_, unconfigured, _, registered, _, _, _, _, _, _, _, _, _, _, _, _, _, valid, rfl⟩ :=
    built
  exact ⟨_, by simpa using unconfigured, registered, rfl, valid, rfl⟩

/-- A first configuration is the first generation of its record. -/
theorem PortRecord.configured_unnumbered {record : PortRecord} {configuration : PortConfiguration}
    (first : configuration.generation = .first)
    (valid : (record.configured configuration).validate = .ok ()) :
    record.generations.configuration = .null := by
  have formed := PortRecord.formed_of_valid valid
  have consistent := formed.configuration rfl
  simp only [PortRecord.validateConfiguration, PortRecord.configured,
    PortRecord.advanceConfigurationGeneration, PortRecord.advanceAdministrativeGeneration,
    PortRecord.advanceLifecycleGeneration, within_eq_ok, refuseIf_eq_ok, first,
    Generation.valid_advance, Bool.true_and, decide_eq_false_iff_not, not_not] at consistent
  obtain ⟨_, _, _, same, _⟩ := consistent
  by_contra numbered
  have positive : record.generations.configuration.value ≠ 0 := fun zero =>
    numbered (Generation.ext zero)
  have later := congrArg Generation.value same
  simp only [Generation.advance, Generation.valid_iff.mpr positive, if_true, Generation.first,
    Generation.next] at later
  split at later
  · next last =>
      rw [← later] at last
      cases last
  · dsimp only at later
    omega

/-- The plan replaces the configuration of a live port, under the current generations. -/
structure Supplants (input : MutationBuildInput) (plan : MutationPlan)
    (committed configuration : PortConfiguration) : Prop where
  configured : input.current.configuration = some committed
  live : input.current.lifecycle.isLive = true
  registered : input.parentDeviceGeneration = some configuration.deviceGeneration
  topology : configuration.topologyGeneration = input.topology
  capability : input.capability.present = true →
    configuration.capabilityGeneration = input.capability.generation
  next : ∃ reason, plan.next = input.current.reconfigured configuration reason []
  applied : plan.requiresApply = true

theorem Mutation.build_supplants {mutation : Mutation} (built : mutation.build input = .ok plan)
    (kind : mutation.kind = .reconfigure ∨ mutation.kind = .assignProfile) :
    ∃ committed configuration, Supplants input plan committed configuration := by
  cases mutation with
  | reconfigure request =>
      simp only [build, buildReconfigure, bind_eq_ok, rejectIf_eq_ok, demand_eq_ok,
        dereference_eq_ok, rejectInvalid_eq_ok, pure_eq_ok] at built
      obtain ⟨committed, present, _, live, _, _, _, _, _, registered, _, _, _, _, _, _, _, _,
        rfl⟩ := built
      exact ⟨committed, _, present, by simpa using live, registered, rfl, fun _ => rfl, ⟨_, rfl⟩,
        rfl⟩
  | assignProfile request =>
      simp only [build, buildAssignProfile, bind_eq_ok, rejectIf_eq_ok, demand_eq_ok,
        dereference_eq_ok, rejectInvalid_eq_ok, pure_eq_ok] at built
      obtain ⟨committed, present, _, live, _, _, _, registered, _, _, _, _, rfl⟩ := built
      exact ⟨committed, _, present, by simpa using live, registered, rfl,
        fun evident => by simp only [evident, if_true], ⟨_, rfl⟩, rfl⟩
  | _ => simp [Mutation.kind] at kind

theorem buildBindCapabilities_renewable {request : CapabilityRequest}
    (built : buildBindCapabilities input request = .ok plan) :
    input.current.Renewable ∧
      plan.next = (input.current.withEvidence request.binding).reexamined request.binding := by
  simp only [buildBindCapabilities, bind_eq_ok, rejectIf_eq_ok, pure_eq_ok] at built
  obtain ⟨_, _, _, _, _, notOlder, _, _, _, notSame, rfl⟩ := built
  refine ⟨fun bound => ?_, rfl⟩
  simp only [bound, Bool.true_and, decide_eq_false_iff_not] at notOlder notSame
  exact Generation.exhaustible_of_lt
    (Generation.lt_of_le_of_ne (Generation.not_lt.mp notOlder) (Ne.symm notSame))

/-- What a reconciliation has checked. -/
theorem buildReconcile_moves {request : ReconcileRequest}
    (built : buildReconcile input request = .ok plan) :
    ∃ (committed : PortConfiguration) (device : DeviceGeneration),
      input.current.configuration = some committed ∧
      input.parentDeviceGeneration = some device ∧ device.valid = true ∧
      input.topology.valid = true ∧ committed.profile.defined input.profiles = true ∧
      input.current.Moves committed device input.topology input.capability.generation ∧
      (validatePlan input.current plan = .ok () →
        validateAgainstCapabilities committed input.capability = .ok ()) := by
  simp only [buildReconcile, bind_eq_ok, rejectIf_eq_ok, demand_eq_ok, rejectInvalid_eq_ok,
    pure_eq_ok] at built
  obtain ⟨committed, configured, device, registered, _, _, _, profile, _, valid, _, moves, rfl⟩ :=
    built
  simp only [PortConfiguration.validate, require_eq_ok] at valid
  refine ⟨committed, device, configured, registered, valid.2.2.1, valid.2.2.2.1,
    by simpa using profile, ?_, fun validated => ?_⟩
  · unfold PortRecord.Moves
    by_contra stays
    simp only [not_or] at stays
    simp [stays] at moves
  · have supported := validatePlan_supported validated rfl rfl
    exact supported

theorem PortConfiguration.unprofiled_validate {configuration : PortConfiguration}
    (valid : configuration.validate = .ok ()) :
    ({ configuration with administrative := .enabled, profile := {} }
      : PortConfiguration).validate = .ok () := by
  simp only [validate, within_eq_ok, require_eq_ok, refuseIf_eq_ok, and_true] at valid ⊢
  obtain ⟨identity, parent, device, topology, generation, _, mode, protocol, speed, duplex, mtu,
    lanes, breakout, autoneg, fec, pause, aggregation, _, rest⟩ := valid
  exact ⟨identity, parent, device, topology, generation, rfl, mode, protocol, speed, duplex, mtu,
    lanes, breakout, autoneg, fec, pause, aggregation, rfl, rest⟩

end Builders

section Commits

variable {runtime : Runtime} {impl : EngineImpl} {mutation : Mutation} {provider : ProviderAnswer}
  {snapshot final : PortRecord} {plan : MutationPlan} {bindings steps : Nat}

theorem Planned.gated {answers : MutationAnswers}
    (planned : Planned runtime mutation answers impl snapshot plan)
    (strict : toleratesReplacedDevice mutation.kind = false) : impl.DeviceUnreplaced snapshot := by
  obtain ⟨_, _, gated, _⟩ := planMutation_ok planned.planned
  intro binding registered
  refine deviceGate_ok gated ?_ strict
  simp [readContext, registered]

/-- The registered device is offered under its generation. -/
theorem EngineImpl.OffersDevice.of_registered {generation : DeviceGeneration}
    (registered : (readContext impl snapshot).deviceGeneration = some generation)
    (valid : generation.valid = true) : impl.OffersDevice runtime snapshot bindings generation := by
  obtain ⟨binding, found, rfl⟩ := Option.map_eq_some_iff.mp registered
  refine ⟨valid, ?_⟩
  rw [found]
  exact .inl rfl

theorem validatePlan_valid {proposal : MutationPlan}
    (validated : validatePlan snapshot proposal = .ok ()) : proposal.next.validate = .ok () := by
  unfold validatePlan at validated
  split at validated
  · cases validated
  · assumption

theorem Commits.configure_restores {request : ConfigureRequest}
    (commits : Commits runtime (.configure request) (.successful provider) impl snapshot plan final)
    (backed : snapshot.Backed runtime) : impl.Restores runtime snapshot 0 1 := by
  obtain ⟨capability, proposal, _, _, built, consulted, validated, _⟩ := commits.successful
  obtain ⟨configuration, unconfigured, registered, first, valid, rfl⟩ :=
    buildConfigure_first built
  have unreplaced := commits.toPlanned.gated rfl
  obtain ⟨binding, found, same⟩ := Option.map_eq_some_iff.mp registered
  have device : configuration.deviceGeneration = snapshot.generations.device :=
    same.symm.trans (unreplaced binding found)
  have generation : configuration.deviceGeneration.valid = true := by
    simp only [PortConfiguration.validate, require_eq_ok] at valid
    exact valid.2.2.1
  have unbound : snapshot.configuration = none := by
    by_contra bound
    exact backed.placed (Option.isSome_iff_ne_none.mpr bound) unconfigured
  refine .first (Nat.le_refl _) unconfigured unbound
    (PortRecord.configured_unnumbered first (validatePlan_valid validated))
    (device ▸ .of_registered registered generation) (.inl ?_)
  have supported : validateAgainstCapabilities configuration capability = .ok () :=
    validatePlan_supported validated rfl rfl
  exact ⟨{ configuration with administrative := .enabled, profile := {} }, capability,
    ⟨PortConfiguration.unprofiled_validate valid, rfl, rfl⟩, evidenceFor_evidenced consulted rfl,
    supported⟩

/-- The configuration of a live port was replaced, under the current generations. -/
structure Rewrites (runtime : Runtime) (impl : EngineImpl) (snapshot final : PortRecord)
    (committed configuration : PortConfiguration) : Prop where
  configured : snapshot.configuration = some committed
  live : snapshot.lifecycle.isLive = true
  offered : impl.OffersDevice runtime snapshot 0 snapshot.generations.device
  registered : (readContext impl snapshot).deviceGeneration = some snapshot.generations.device
  device : configuration.deviceGeneration = snapshot.generations.device
  topology : configuration.topologyGeneration = impl.topology
  capability : snapshot.capability.present = true →
    configuration.capabilityGeneration = snapshot.capability.generation
  rewritten : final.configuration = some configuration
  lifecycle : final.lifecycle = snapshot.lifecycle
  parentDevice : final.parentDevice = snapshot.parentDevice
  evidence : final.capability = snapshot.capability
  drift : final.drift = if runtime.verifies then .inSync else snapshot.drift

theorem Commits.rewrites
    (commits : Commits runtime mutation (.successful provider) impl snapshot plan final)
    (kind : mutation.kind = .reconfigure ∨ mutation.kind = .assignProfile) :
    ∃ committed configuration, Rewrites runtime impl snapshot final committed configuration := by
  have valid := commits.final_validate
  obtain ⟨capability, proposal, applied, evidence, built, consulted, validated, rfl⟩ :=
    commits.successful
  have strict : toleratesReplacedDevice mutation.kind = false := by
    rcases kind with same | same
    · rw [same]
      rfl
    · rw [same]
      rfl
  have needed : needsConfigurationExpectation mutation.kind = true := by
    rcases kind with same | same
    · rw [same]
      rfl
    · rw [same]
      rfl
  obtain ⟨committed, configuration, supplants⟩ := Mutation.build_supplants built kind
  obtain ⟨reason, next⟩ := supplants.next
  obtain ⟨binding, found, registered⟩ := Option.map_eq_some_iff.mp supplants.registered
  have device : configuration.deviceGeneration = snapshot.generations.device :=
    registered.symm.trans (commits.toPlanned.gated strict binding found)
  obtain ⟨present, resolved⟩ := evidenceFor_ok consulted needed
  have recorded := supplants.registered
  rw [device] at recorded
  have generation : configuration.deviceGeneration.valid = true := by
    have stored : ((stampPlan mutation proposal).next.settledWith applied
        (proposal.settledDrift runtime) evidence).configuration = some { configuration with
          generation := snapshot.generations.configuration.advance } := by
      simp only [stampPlan, PortRecord.settledWith, next]
      rfl
    have committed := ((PortRecord.formed_of_valid valid).committed_valid stored).1
    simp only [PortConfiguration.validate, require_eq_ok] at committed
    exact committed.2.2.1
  refine ⟨committed, { configuration with
      generation := snapshot.generations.configuration.advance }, supplants.configured,
    supplants.live, .of_registered recorded (device ▸ generation), recorded, device,
    supplants.topology, fun bound => ?_, ?_, ?_, ?_, ?_, ?_⟩
  · exact (supplants.capability present).trans (congrArg _ (resolved bound))
  · simp only [stampPlan, PortRecord.settledWith, next]
    rfl
  · simp only [stampPlan, PortRecord.settledWith, next]
    rfl
  · simp only [stampPlan, PortRecord.settledWith, next]
    rfl
  · simp only [stampPlan, PortRecord.settledWith, next]
    rfl
  · simp only [stampPlan, PortRecord.settledWith, MutationPlan.settledDrift, next,
      supplants.applied, Bool.true_and]
    rfl

/-- What moves a rewritten configuration on could have moved it on before. -/
theorem Rewrites.moves {committed configuration : PortConfiguration} {device : DeviceGeneration}
    {topology : TopologyGeneration} {capability : CapabilityBinding}
    (rewrites : Rewrites runtime impl snapshot final committed configuration)
    (evident : final.Evidenced runtime capability)
    (offered : impl.OffersDevice runtime final bindings device) (later : impl.topology ≤ topology)
    (moves : final.Moves configuration device topology capability.generation) :
    impl.MovesOn runtime snapshot ∨ 0 < bindings := by
  have live := rewrites.live
  have settled {drift : DriftState} (other : drift ≠ .inSync) (found : final.drift = drift) :
      runtime.verifies = false ∧ snapshot.drift = drift := by
    rw [rewrites.drift] at found
    split at found
    · exact absurd found.symm other
    · next unverified => exact ⟨by simpa using unverified, found⟩
  rcases moves with fenced | drifted | revalidated | replaced | moved | renewed
  · rw [rewrites.lifecycle] at fenced
    rw [requiresReconciliation_not_live fenced] at live
    cases live
  · obtain ⟨unverified, same⟩ := settled (by decide) drifted
    exact .inl (.inl ⟨unverified, .inl same⟩)
  · obtain ⟨unverified, same⟩ := settled (by decide) revalidated
    exact .inl (.inl ⟨unverified, .inr same⟩)
  · rw [rewrites.device] at replaced
    obtain ⟨binding, found, registered⟩ := Option.map_eq_some_iff.mp rewrites.registered
    have given := offered.2
    rw [rewrites.parentDevice, found] at given
    rcases given with same | ⟨newer, room⟩
    · exact absurd (same.symm.trans registered) replaced
    · rw [registered] at newer
      exact room.imp (fun room => .inr (.inr (.inl ⟨Generation.exhaustible_of_lt newer, room⟩)))
        And.left
  · rw [rewrites.topology] at moved
    exact .inl (.inr (.inl (Generation.exhaustible_of_lt
      (Generation.lt_of_le_of_ne later (Ne.symm moved)))))
  · refine .inl (.inr (.inr (.inr ?_)))
    by_contra bound
    have present : snapshot.capability.present = true := by simpa using bound
    obtain ⟨answer, resolved⟩ := evident
    simp only [resolveCapabilities, rewrites.evidence, present, if_true, Except.ok.injEq]
      at resolved
    exact renewed ((congrArg _ resolved).symm.trans (rewrites.capability present).symm)

/-- A replacement of the configuration may have released it from its profile. -/
theorem Rewrites.restorable {committed configuration : PortConfiguration}
    (rewrites : Rewrites runtime impl snapshot final committed configuration)
    (restores : impl.Restores runtime final bindings steps) :
    impl.RestorableWithin runtime snapshot (bindings + steps + 1) := by
  have live := rewrites.live
  rw [← rewrites.lifecycle] at live
  have released (moves : impl.MovesOn runtime snapshot ∨ 2 ≤ bindings + steps)
      (enough : 1 ≤ steps) : impl.RestorableWithin runtime snapshot (bindings + steps + 1) := by
    refine ⟨0, bindings + steps + 1, .unprofiled (by omega) rewrites.live rewrites.configured
      rewrites.offered (moves.imp_right fun _ => by omega), by omega⟩
  cases restores with
  | first _ unconfigured _ _ _ _ =>
      rw [unconfigured] at live
      cases live
  | reconciled enough configured profile evident _ offered oriented later moves =>
      obtain rfl := Option.some.inj (rewrites.rewritten.symm.trans configured)
      refine released ?_ enough
      rcases moves with moves | twice
      · exact (rewrites.moves evident offered later moves).imp_right fun _ => by omega
      · exact .inr (by omega)
  | rebound _ fenced _ _ _ _ _ _ =>
      rw [fenced] at live
      cases live
  | unprofiled enough _ _ _ _ => exact released (.inr (by omega)) (by omega)

theorem Commits.reconcile_restores {request : ReconcileRequest}
    (commits : Commits runtime (.reconcile request) (.successful provider) impl snapshot plan
      final) : impl.Restores runtime snapshot 0 1 := by
  obtain ⟨capability, proposal, _, _, built, consulted, validated, _⟩ := commits.successful
  obtain ⟨committed, device, configured, registered, valid, oriented, profile, moves,
    supported⟩ := buildReconcile_moves built
  exact .reconciled (Nat.le_refl _) configured (.inl profile)
    (evidenceFor_evidenced consulted rfl) (supported validated)
    (.of_registered registered valid) oriented (Generation.le_refl _) (.inl moves)

theorem Commits.administrative_restorable {request : AdministrativeRequest}
    (commits : Commits runtime (.administrative request) (.successful provider) impl snapshot plan
      final)
    (backed : snapshot.Backed runtime) (restores : impl.Restores runtime final bindings steps) :
    impl.RestorableWithin runtime snapshot (bindings + steps + 1) := by
  obtain ⟨_, proposal, _, _, built, _, _, rfl⟩ := commits.successful
  obtain ⟨committed, configuration, configured, live, _, rfl, _, next⟩ :=
    buildAdministrative_ok built
  refine ⟨_, _, restores.while_live backed live configured ?_ ?_ ?_, Nat.le_refl _⟩
  · simp only [stampPlan, PortRecord.settledWith, next]
    exact ⟨_, rfl, rfl⟩
  · simp only [stampPlan, PortRecord.settledWith, next]
    rfl
  · simp only [stampPlan, PortRecord.settledWith, next]
    rfl

theorem Commits.reported {answers : MutationAnswers}
    (commits : Commits runtime mutation answers impl snapshot plan final)
    (reports : writesConfiguration mutation.kind = false) : snapshot.Reported final := by
  obtain ⟨_, proposal, _, _, _, proposed, _, _, rfl, _⟩ := commits.settlement
  have reported := proposed.reported reports
  exact ⟨reported.configuration, reported.parentDevice, reported.device, reported.lifecycle⟩

/-- Evidence was bound that keeps the port in its standing, or fences it. -/
theorem Commits.bindCapabilities_restorable {request : CapabilityRequest}
    (commits : Commits runtime (.bindCapabilities request) (.successful provider) impl snapshot
      plan final)
    (backed : snapshot.Backed runtime) (formed : snapshot.Formed)
    (restores : impl.Restores runtime final bindings steps) :
    impl.RestorableWithin runtime snapshot (bindings + steps + 1) := by
  have unreplaced := commits.toPlanned.gated rfl
  have reported := commits.reported rfl
  obtain ⟨_, proposal, _, _, built, _, _, rfl⟩ := commits.successful
  obtain ⟨renewable, next⟩ := buildBindCapabilities_renewable built
  by_cases live : snapshot.lifecycle.isLive = true
  · obtain ⟨committed, configured⟩ := Option.isSome_iff_exists.mp (formed.live live)
    exact ⟨_, _, restores.while_live backed live configured
      ⟨committed, reported.configuration.trans configured, rfl⟩ reported.parentDevice
      reported.device, Nat.le_refl _⟩
  · have fenced : snapshot.lifecycle.isLive = false := by simpa using live
    cases restores with
    | first _ unconfigured unbound unnumbered device _ =>
        have unbound := reported.configuration.symm.trans unbound
        obtain ⟨_, _, _, _, _, same, judged⟩ :=
          (snapshot.withEvidence request.binding).reexamined_eq request.binding
        simp only [stampPlan, PortRecord.settledWith, next, same] at unconfigured unnumbered
        have standing : snapshot.lifecycle = .unconfigured := by
          obtain ⟨_, committed, configured, _⟩ | ⟨kept, _⟩ := judged
          · cases unbound.symm.trans configured
          · exact kept.symm.trans unconfigured
        rw [reported.device] at device
        exact ⟨bindings, steps + 1, .first (by omega) standing unbound unnumbered
          (device.congr reported.parentDevice) (.inr ⟨by omega, renewable⟩), Nat.le_refl _⟩
    | reconciled _ configured profile evident supported offered _ _ _ =>
        exact ⟨bindings, steps + 1, .rebound (by omega) fenced
          (reported.configuration.symm.trans configured) profile (.inl unreplaced)
          (offered.congr reported.parentDevice) renewable ⟨_, supported⟩, Nat.le_refl _⟩
    | rebound _ _ configured profile _ offered _ supportable =>
        exact ⟨bindings, steps + 1, .rebound (by omega) fenced
          (reported.configuration.symm.trans configured) profile (.inl unreplaced)
          (offered.congr reported.parentDevice) renewable supportable, Nat.le_refl _⟩
    | unprofiled _ alive _ _ _ => exact absurd (reported.live alive) live

/-- What a mutation that proposes no configuration and binds no evidence leaves besides. -/
theorem Proposal.withdrawn {input : MutationBuildInput} {proposal : MutationPlan}
    (proposed : Proposal mutation input proposal)
    (reports : writesConfiguration mutation.kind = false)
    (other : mutation.kind ≠ .bindCapabilities) :
    proposal.next.capability = input.current.capability ∧
      proposal.next.generations.configuration = input.current.generations.configuration ∧
      (proposal.next.lifecycle = .unconfigured → input.current.lifecycle = .unconfigured) := by
  cases proposed with
  | configured requested | administered requested | reconciled requested =>
      subst requested
      cases reports
  | replaced requested =>
      rcases requested with same | same
      · rw [same] at reports
        cases reports
      · rw [same] at reports
        cases reports
  | rebound requested =>
      subst requested
      exact absurd rfl other
  | @fenced lifecycle reason detail retire _ _ allowed result next =>
      obtain ⟨_, _, same⟩ := (input.current.fenced lifecycle reason detail).disowned_eq retire
      rw [next]
      dsimp only
      rw [same]
      exact ⟨rfl, rfl, fun unconfigured =>
        absurd (result.symm.trans unconfigured) (evaluateTransition_ne_unconfigured allowed)⟩
  | reowned _ _ next =>
      rw [next]
      exact ⟨rfl, rfl, id⟩
  | @evidenced request _ _ _ _ next =>
      obtain ⟨_, _, _, _, _, _, _, same, judged⟩ := input.current.evidenced_eq request.evidence
      rw [next, same]
      refine ⟨rfl, rfl, fun unconfigured => ?_⟩
      obtain kept | ⟨_, fenced⟩ := judged
      · exact kept.symm.trans unconfigured
      · cases fenced.symm.trans unconfigured
  | @observed request _ _ next =>
      obtain ⟨_, _, _, _, _, same, judged⟩ :=
        input.current.drifted_eq request.observed request.detail
      rw [next, same]
      refine ⟨rfl, rfl, fun unconfigured => ?_⟩
      obtain kept | ⟨_, fenced⟩ | ⟨allowed, conflicted⟩ := judged
      · exact kept.symm.trans unconfigured
      · cases fenced.symm.trans unconfigured
      · exact absurd (conflicted.symm.trans unconfigured)
          (evaluateTransition_ne_unconfigured allowed)

theorem Commits.reported_restorable
    (commits : Commits runtime mutation (.successful provider) impl snapshot plan final)
    (reports : writesConfiguration mutation.kind = false)
    (other : mutation.kind ≠ .bindCapabilities) (backed : snapshot.Backed runtime)
    (formed : snapshot.Formed) (restores : impl.Restores runtime final bindings steps) :
    impl.RestorableWithin runtime snapshot (bindings + steps + 1) := by
  have reported := commits.reported reports
  by_cases live : snapshot.lifecycle.isLive = true
  · obtain ⟨committed, configured⟩ := Option.isSome_iff_exists.mp (formed.live live)
    exact ⟨_, _, restores.while_live backed live configured
      ⟨committed, reported.configuration.trans configured, rfl⟩ reported.parentDevice
      reported.device, Nat.le_refl _⟩
  · have fenced : snapshot.lifecycle.isLive = false := by simpa using live
    have dead : final.lifecycle.isLive = false := by simpa using mt reported.live live
    obtain ⟨_, _, _, _, _, proposed, _, _, same, _⟩ := commits.settlement
    obtain ⟨capability, numbered, untouched⟩ := proposed.withdrawn reports other
    have standing := (observe_ok (planMutation_ok commits.planned).1).2.1
    subst same
    exact ⟨_, _, restores.while_fenced backed fenced standing dead untouched
      reported.configuration numbered capability reported.parentDevice reported.device,
      Nat.le_succ _⟩

/-- A claim changes nothing that the repair of the port depends on. -/
theorem Commits.claim_alike
    (commits : Commits runtime mutation (.successful provider) impl snapshot plan final)
    (claims : mutation.kind = .claimOwnership) : snapshot.Alike final := by
  obtain ⟨_, proposal, _, _, built, _, _, rfl⟩ := commits.successful
  have proposed := Mutation.build_proposal built
  cases mutation with
  | claimOwnership request =>
      cases proposed with
      | reowned _ unapplied next =>
          rw [MutationPlan.settledDrift, unapplied, Bool.false_and]
          simp only [stampPlan, PortRecord.settledWith, next]
          exact ⟨rfl, rfl, rfl, rfl, rfl, rfl, rfl⟩
      | configured requested | administered requested | reconciled requested | rebound requested
      | evidenced requested | observed requested => cases requested
      | replaced requested => rcases requested with same | same <;> cases same
      | @fenced _ _ _ retire requested => cases retire <;> cases requested
  | _ => cases claims

theorem evaluateTransition_administrative {lifecycle : PortLifecycle} {op : AdministrativeOp}
    (allowed : (evaluateTransition lifecycle (lifecycleTransitionFor op)).allowed = true) :
    (evaluateTransition lifecycle (lifecycleTransitionFor op)).result ≠ .configured := by
  have revalidated (lifecycle : PortLifecycle) :
      (evaluateTransition lifecycle .requireRevalidation).result ≠ .configured ∨
        (evaluateTransition lifecycle .requireRevalidation).allowed = false := by
    cases lifecycle <;> decide
  cases op with
  | illegal raw =>
      refine (revalidated lifecycle).resolve_right ?_
      simpa [lifecycleTransitionFor] using allowed
  | _ =>
      revert allowed
      cases lifecycle <;> decide

/-- Only a first configuration and a reconciliation bring a port to the configured standing. -/
theorem Commits.configured_before
    (commits : Commits runtime mutation (.successful provider) impl snapshot plan final)
    (backed : snapshot.Backed runtime) (configured : final.lifecycle = .configured) :
    snapshot.lifecycle = .configured ∨
      (mutation.kind ≠ .claimOwnership ∧ impl.Restores runtime snapshot 0 1) := by
  have reports (reports : writesConfiguration mutation.kind = false) :
      snapshot.lifecycle = .configured := by
    rw [← configured]
    exact ((commits.reported reports).lifecycle (by rw [configured]; rfl)).symm
  cases mutation with
  | configure request => exact .inr ⟨nofun, commits.configure_restores backed⟩
  | reconcile request => exact .inr ⟨nofun, commits.reconcile_restores⟩
  | reconfigure request =>
      obtain ⟨_, _, rewrites⟩ := commits.rewrites (.inl rfl)
      exact .inl (rewrites.lifecycle.symm.trans configured)
  | assignProfile request =>
      obtain ⟨_, _, rewrites⟩ := commits.rewrites (.inr rfl)
      exact .inl (rewrites.lifecycle.symm.trans configured)
  | administrative request =>
      obtain ⟨_, proposal, _, _, built, _, _, rfl⟩ := commits.successful
      obtain ⟨_, _, _, _, allowed, _, _, next⟩ := buildAdministrative_ok built
      simp only [stampPlan, PortRecord.settledWith, next] at configured
      exact absurd configured (evaluateTransition_administrative allowed)
  | bindCapabilities | supersede | retire | claimOwnership | transferOwnership | releaseOwnership
  | recordAppliedEvidence | observeExternalState => exact .inl (reports rfl)

theorem Commits.after_generation {answers : MutationAnswers}
    (commits : Commits runtime mutation answers impl snapshot plan final) :
    (executeMutation runtime mutation answers impl).1.generation = impl.generation.advance := by
  have effect := executeMutation_effect runtime mutation answers impl
  generalize (executeMutation runtime mutation answers impl).1 = after at effect ⊢
  cases effect with
  | unrecorded uncommitted _ _ => exact absurd commits (uncommitted _ _ _)
  | committed _ =>
      have counted : (impl.authorised runtime mutation).generation = impl.generation :=
        EngineImpl.authorised_generation
      rw [EngineImpl.persistLockedState_generation, Generation.advance_eq_next, ← counted]
      rfl
  | doubted doubts => exact (commits.not_doubts doubts).elim

/-- A commit saves the port at most the generation it takes. -/
theorem Commits.restorable
    (commits : Commits runtime mutation (.successful provider) impl snapshot plan final)
    (backed : snapshot.Backed runtime) (formed : snapshot.Formed)
    (restores : impl.Restores runtime final bindings steps) :
    impl.RestorableWithin runtime snapshot (bindings + steps + 1) := by
  cases mutation with
  | configure request => exact ⟨0, 1, commits.configure_restores backed, by omega⟩
  | reconcile request => exact ⟨0, 1, commits.reconcile_restores, by omega⟩
  | reconfigure request =>
      obtain ⟨_, _, rewrites⟩ := commits.rewrites (.inl rfl)
      exact rewrites.restorable restores
  | assignProfile request =>
      obtain ⟨_, _, rewrites⟩ := commits.rewrites (.inr rfl)
      exact rewrites.restorable restores
  | administrative request => exact commits.administrative_restorable backed restores
  | bindCapabilities request => exact commits.bindCapabilities_restorable backed formed restores
  | supersede | retire | claimOwnership | transferOwnership | releaseOwnership
  | recordAppliedEvidence | observeExternalState =>
      exact commits.reported_restorable rfl nofun backed formed restores

/-- Whoever changes a record has authority over it, or claims that. -/
theorem Planned.delegates {answers : MutationAnswers}
    (planned : Planned runtime mutation answers impl snapshot plan)
    (enough : mutation.kind = .claimOwnership → 1 ≤ steps) :
    impl.Delegates runtime snapshot bindings steps := by
  by_cases required : runtime.config.requireOwnership = true
  · cases planned.entitled required with
    | @owner ownership owned holds =>
        refine .held owned ?_
        simp only [PortOwnership.heldBy, Bool.and_eq_true, decide_eq_true_eq] at holds
        rw [holds.1.1.2]
        obtain ⟨_, _, ⟨found, present, _⟩ | ⟨_, _, room, _⟩⟩ :=
          EngineImpl.checkAuthority_ok planned.authorised
        · exact .inl (by rw [present]; rfl)
        · exact .inr room
    | claim claims free =>
        refine .claimed (enough claims) ?_ (.inl (planned.gated (by rw [claims]; rfl)))
        cases owned : snapshot.ownership with
        | none => rfl
        | some ownership => exact free ownership owned
    | unconfigured unowned bare => exact .unowned unowned bare
  · exact .unchecked (by simpa using required)

end Commits

section Steps

variable {runtime : Runtime} {impl after : EngineImpl} {record other : PortRecord} {port : PortId}
  {bindings steps spent : Nat}

namespace EngineImpl

theorem Restores.positive (restores : impl.Restores runtime record bindings steps) : 1 ≤ steps := by
  cases restores with
  | first enough | reconciled enough => exact enough
  | rebound enough | unprofiled enough => exact Nat.le_of_succ_le enough

theorem HasRoom.mono {count more : Nat} (room : impl.HasRoom more) (atMost : count ≤ more) :
    impl.HasRoom count :=
  Nat.le_trans (Nat.add_le_add_left atMost _) room

theorem HasRoom.before (spent : Nat) {count : Nat} (room : after.HasRoom count)
    (rooms : ∀ count, after.HasRoom (count + 1) → impl.HasRoom (count + 1 + spent))
    (positive : 1 ≤ count) : impl.HasRoom (count + spent) := by
  obtain ⟨less, rfl⟩ := Nat.exists_eq_add_of_le' positive
  exact rooms less room

/-- The port can be configured by a run after the operation, and the record stayed. -/
theorem Recoverable.kept (recoverable : after.Recoverable runtime record)
    (precedes : impl.Precedes runtime after spent)
    (rooms : ∀ count, after.HasRoom (count + 1) → impl.HasRoom (count + 1 + spent)) :
    impl.Recoverable runtime record := by
  obtain ⟨running, established, bindings, authority, work, delegates, restores, room⟩ := recoverable
  have positive := restores.positive
  refine ⟨precedes.running running, precedes.established established, bindings + spent, authority,
    work, delegates.precedes precedes, restores.narrows precedes.toNarrows, ?_⟩
  exact (room.before spent rooms (by omega)).mono (by omega)

/-- The owner that the new epoch released would have been released later. -/
theorem Recoverable.released_by_epoch (recoverable : after.Recoverable runtime other)
    (precedes : impl.Precedes runtime after 0)
    (advanced : after.generation = impl.generation.advance) (alike : record.Alike other)
    (released : other.ownership = none) (advances : impl.epoch.exhaustible = false) :
    impl.Recoverable runtime record := by
  obtain ⟨running, established, bindings, authority, work, delegates, restores, room⟩ := recoverable
  have positive := restores.positive
  have later : impl.HasRoom (bindings + authority + work + 1) := by
    refine room.before 1 (fun count room => ?_) (by omega)
    exact room.before_advance advanced
  have restored := (restores.narrows precedes.toNarrows).alike alike
  have passing (passes : after.PassesDevice runtime other bindings) :
      impl.PassesDevice runtime record bindings :=
    (precedes.passes passes).congr alike.parentDevice alike.device
  refine ⟨precedes.running running, precedes.established established, bindings, ?_⟩
  cases delegates with
  | unchecked free => exact ⟨authority, work, .unchecked free, restored, later.mono (by omega)⟩
  | unowned _ unbound =>
      rw [alike.configuration] at unbound
      exact ⟨1, work, .released (Nat.le_refl _) advances unbound, restored, later.mono (by omega)⟩
  | held owned _ =>
      rw [released] at owned
      cases owned
  | claimed enough _ passes =>
      exact ⟨authority + 1, work, .reclaimed (Nat.succ_le_succ enough) advances (passing passes),
        restored, later.mono (by omega)⟩
  | released enough _ unbound =>
      rw [alike.configuration] at unbound
      exact ⟨authority, work, .released enough advances unbound, restored, later.mono (by omega)⟩
  | reclaimed enough _ passes =>
      exact ⟨authority, work, .reclaimed enough advances (passing passes), restored,
        later.mono (by omega)⟩

/-- The owner that was fenced could have been registered again. -/
theorem Recoverable.released_by_fence {ownership : PortOwnership}
    (recoverable : after.Recoverable runtime other)
    (precedes : impl.Precedes runtime after 0)
    (rooms : ∀ count, after.HasRoom (count + 1) → impl.HasRoom (count + 1))
    (alike : record.Alike other) (owned : record.ownership = some ownership)
    (seats : impl.Seats ownership.publisher) : impl.Recoverable runtime record := by
  obtain ⟨running, established, bindings, authority, work, _, restores, room⟩ := recoverable
  have positive := restores.positive
  refine ⟨precedes.running running, precedes.established established, bindings, 0, work,
    .held owned seats, (restores.narrows precedes.toNarrows).alike alike, ?_⟩
  exact (room.before 0 rooms (by omega)).mono (by omega)

section Mutations

variable {mutation : Mutation} {provider : ProviderAnswer} {snapshot final : PortRecord}
  {plan : MutationPlan}

/-- What a commit makes of the record could be made of the snapshot. -/
theorem Recoverable.committed (recoverable : after.Recoverable runtime final)
    (commits : Commits runtime mutation (.successful provider) impl snapshot plan final)
    (backed : snapshot.Backed runtime) (formed : snapshot.Formed)
    (precedes : impl.Precedes runtime after 0)
    (advanced : after.generation = impl.generation.advance) :
    impl.Recoverable runtime snapshot := by
  obtain ⟨running, established, bindings, authority, work, delegates, restores, room⟩ := recoverable
  have positive := restores.positive
  have later : impl.HasRoom (bindings + authority + work + 1) := by
    refine room.before 1 (fun count room => ?_) (by omega)
    exact room.before_advance advanced
  refine ⟨precedes.running running, precedes.established established, ?_⟩
  have restored := restores.narrows precedes.toNarrows
  by_cases claims : mutation.kind = .claimOwnership
  · exact ⟨bindings, 1, work, commits.toPlanned.delegates fun _ => Nat.le_refl _,
      restored.alike (commits.claim_alike claims), later.mono (by omega)⟩
  · obtain ⟨wider, longer, restorable, bounded⟩ := commits.restorable backed formed restored
    exact ⟨wider, 0, longer, commits.toPlanned.delegates fun same => absurd same claims, restorable,
      later.mono (by omega)⟩

/-- The commit that configured the port took one generation, and authority over the record. -/
theorem Recoverable.of_configured
    (commits : Commits runtime mutation (.successful provider) impl snapshot plan final)
    (restores : impl.Restores runtime snapshot 0 1) (other : mutation.kind ≠ .claimOwnership) :
    impl.Recoverable runtime snapshot := by
  have admitted := commits.admitted
  have authority := EngineImpl.checkAuthority_ok commits.authorised
  obtain ⟨_, _, _, _, _, stored, _⟩ := commits.stored
  refine ⟨?_, ?_, 0, 0, 1, commits.toPlanned.delegates fun same => absurd same other, restores, ?_⟩
  · unfold admitMutation at admitted
    split at admitted
    · cases admitted
    · next running => simpa using running
  · have complete := authority.1
    simp only [AuthorityContext.valid, Bool.and_eq_true] at complete
    exact authority.2.1 ▸ complete.1.1.1
  · obtain ⟨_, _, _, _, _, room, _⟩ := commitRecord_ok stored
    rw [authorised_generation] at room
    have bounded := impl.generation.bounded
    simp only [Generation.exhaustible, decide_eq_false_iff_not] at room
    unfold HasRoom
    omega

end Mutations

variable (runtime) in
/-- The port of the record is configured, or can be. -/
def Attains (impl : EngineImpl) (record : PortRecord) : Prop :=
  record.lifecycle = .configured ∨ (record.lifecycle ≠ .retired ∧ impl.Recoverable runtime record)

theorem Attains.kept (attains : after.Attains runtime record)
    (precedes : impl.Precedes runtime after spent)
    (rooms : ∀ count, after.HasRoom (count + 1) → impl.HasRoom (count + 1 + spent)) :
    impl.Attains runtime record :=
  attains.imp_right fun standing => standing.imp_right fun recoverable =>
    recoverable.kept precedes rooms

theorem Attains.mutated {mutation : Mutation} {provider : ProviderAnswer}
    (grounded : impl.Grounded runtime) (found : impl.records[port]? = some record)
    (stored : (executeMutation runtime mutation (.successful provider) impl).1.records[port]? =
      some other)
    (attains : (executeMutation runtime mutation (.successful provider) impl).1.Attains runtime
      other) : impl.Attains runtime record := by
  have precedes : impl.Precedes runtime
      (executeMutation runtime mutation (.successful provider) impl).1 0 :=
    executeMutation_precedes mutation
  have stamps := executeMutation_stamps runtime mutation (.successful provider) impl
  have effect := executeMutation_records runtime mutation (.successful provider) impl
  have kept (same : other = record) : impl.Attains runtime record :=
    same ▸ attains.kept precedes fun _ room => stamps.hasRoom room
  generalize unfolded : (executeMutation runtime mutation (.successful provider) impl).1.records =
    records at effect stored
  cases effect with
  | unrecorded _ _ => exact kept (Option.some.inj (stored.symm.trans found))
  | @committed snapshot final plan commits =>
      by_cases here : mutation.port = port
      · subst here
        rw [OrderedMap.lookup_insert_self] at stored
        cases stored
        obtain rfl : snapshot = record :=
          Option.some.inj (commits.toPlanned.snapshot_found.symm.trans found)
        have backed := grounded.backed _ _ found
        rcases attains with configured | ⟨_, recoverable⟩
        · refine (commits.configured_before backed configured).imp_right fun restores => ?_
          exact ⟨(observe_ok (planMutation_ok commits.planned).1).2.1,
            .of_configured commits restores.2 restores.1⟩
        · exact .inr ⟨(observe_ok (planMutation_ok commits.planned).1).2.1,
            recoverable.committed commits backed (grounded.formed _ _ found) precedes
              commits.after_generation⟩
      · rw [OrderedMap.lookup_insert_of_ne here] at stored
        exact kept (Option.some.inj (stored.symm.trans found))
  | doubted doubts =>
      obtain ⟨_, _, doubted⟩ := doubts.doubted
      obtain ⟨_, _, _, decided⟩ := applyPlan_successful runtime _ _ provider
      cases decided.symm.trans doubted

theorem released_alike (record : PortRecord) (reason detail : Text) :
    record.Alike (record.released reason detail) :=
  ⟨rfl, rfl, rfl, rfl, rfl, rfl, rfl⟩

/-- A release is counted: the owner of the record is gone. -/
theorem Stamps.released {ownership : PortOwnership} {reason detail : Text}
    (stamps : impl.Stamps after) (found : impl.records[port]? = some record)
    (owned : record.ownership = some ownership)
    (stored : after.records[port]? = some (record.released reason detail)) :
    after.generation = impl.generation.advance := by
  rcases stamps with ⟨same, _⟩ | advanced
  · rw [same, found] at stored
    have kept : record.ownership = none := congrArg PortRecord.ownership (Option.some.inj stored)
    cases owned.symm.trans kept
  · exact advanced

theorem Attains.begun (found : impl.records[port]? = some record)
    (stored : (impl.perform runtime .beginEpoch).records[port]? = some other)
    (attains : (impl.perform runtime .beginEpoch).Attains runtime other) :
    impl.Attains runtime record := by
  have precedes : impl.Precedes runtime (impl.perform runtime .beginEpoch) 0 := beginEpoch_precedes
  have stamps : impl.Stamps (impl.perform runtime .beginEpoch) := perform_stamps rfl
  have kept (same : other = record) : impl.Attains runtime record :=
    same ▸ attains.kept precedes fun _ room => stamps.hasRoom room
  have step := beginEpoch_effect_cases impl
  rw [← show impl.perform runtime .beginEpoch = (beginEpoch impl).1 from rfl] at step
  obtain ⟨same, _⟩ | ⟨_, later, _, after⟩ := step
  · rw [same, found] at stored
    exact kept (Option.some.inj stored).symm
  · have lookup := stored
    rw [after, releaseOwnershipBeforeEpoch, releaseWhere_lookup, found, Option.map_some,
      Option.some.injEq] at lookup
    split at lookup
    · next held =>
        subst lookup
        obtain ⟨ownership, owned, _⟩ := (Option.any_eq_true _ _).mp held
        refine attains.imp_right fun standing => standing.imp_right fun recoverable => ?_
        exact recoverable.released_by_epoch precedes (stamps.released found owned stored)
          (released_alike ..) rfl (Generation.exhaustible_of_lt later)
    · exact kept lookup.symm

theorem Attains.fenced {publisher : PublisherId} {boot : WorkerBootId}
    (wellFormed : impl.WellFormed) (found : impl.records[port]? = some record)
    (stored : (impl.perform runtime (.fencePublisher publisher boot)).records[port]? = some other)
    (attains : (impl.perform runtime (.fencePublisher publisher boot)).Attains runtime other) :
    impl.Attains runtime record := by
  have precedes : impl.Precedes runtime (impl.perform runtime (.fencePublisher publisher boot)) 0 :=
    fencePublisher_precedes publisher boot
  have stamps : impl.Stamps (impl.perform runtime (.fencePublisher publisher boot)) :=
    perform_stamps rfl
  have kept (same : other = record) : impl.Attains runtime record :=
    same ▸ attains.kept precedes fun _ room => stamps.hasRoom room
  have step := fencePublisher_effect_cases impl publisher boot
  rw [← show impl.perform runtime (.fencePublisher publisher boot) =
    (fencePublisher impl publisher boot).1 from rfl] at step
  obtain ⟨same, _⟩ | ⟨existing, present, _, _, _, after⟩ := step
  · rw [same, found] at stored
    exact kept (Option.some.inj stored).symm
  · have lookup := stored
    rw [after, releaseOwnershipOf, releaseWhere_lookup, found, Option.map_some,
      Option.some.injEq] at lookup
    split at lookup
    · next held =>
        subst lookup
        obtain ⟨ownership, owned, holds⟩ := (Option.any_eq_true _ _).mp held
        simp only [Bool.and_eq_true, decide_eq_true_eq] at holds
        have seats : impl.Seats ownership.publisher := by
          rw [holds.1, (wellFormed.consistent _ _ present).1]
          exact .inl (by rw [present]; rfl)
        refine attains.imp_right fun standing => standing.imp_right fun recoverable => ?_
        exact recoverable.released_by_fence precedes (fun _ room => stamps.hasRoom room)
          (released_alike ..) owned seats
    · exact kept lookup.symm

/-- No operation of a cooperating run makes anything of a port that it could not be before. -/
theorem Attains.before (grounded : impl.Grounded runtime) {operation : Operation}
    (cooperates : operation.Cooperates) (found : impl.records[port]? = some record)
    (stored : (impl.perform runtime operation).records[port]? = some other)
    (attains : (impl.perform runtime operation).Attains runtime other) :
    impl.Attains runtime record := by
  obtain ⟨spent, precedes, rooms⟩ :=
    perform_precedes runtime grounded.toWellFormed cooperates.isLoad
  have kept (same : (impl.perform runtime operation).records[port]? = some record) :
      impl.Attains runtime record :=
    (Option.some.inj (stored.symm.trans same) ▸ attains).kept precedes rooms
  have frame := perform_setting runtime impl operation
  cases operation with
  | load container => cases cooperates
  | mutate mutation answers =>
      obtain ⟨provider, rfl⟩ := cooperates
      exact attains.mutated grounded found stored
  | bindPort request answers =>
      exact kept ((bindPort_precedes runtime impl request answers).1 port record found)
  | beginEpoch => exact attains.begun found stored
  | fencePublisher publisher boot => exact attains.fenced grounded.toWellFormed found stored
  | registerPublisher publisher boot epoch =>
      obtain ⟨_, same⟩ := registerPublisher_frame impl publisher boot epoch
      refine kept ?_
      rw [perform, same]
      exact found
  | defineProfile | registerDevice | setTopologyGeneration | save | shutdown =>
      exact kept ((congrArg (·[port]?) (frame rfl).records).trans found)

variable (runtime) in
/-- The port is bound, and out of reach of every cooperating run. -/
def Loses (port : PortId) (impl : EngineImpl) : Prop :=
  impl.Grounded runtime ∧
    ∃ record, impl.records[port]? = some record ∧ ¬impl.Attains runtime record

theorem Loses.perform (loses : impl.Loses runtime port) {operation : Operation}
    (cooperates : operation.Cooperates) : (impl.perform runtime operation).Loses runtime port := by
  obtain ⟨grounded, record, found, lost⟩ := loses
  have stays : ((impl.perform runtime operation).records[port]?).isSome = true :=
    record_stays cooperates.isLoad (by rw [found]; rfl)
  obtain ⟨other, stored⟩ := Option.isSome_iff_exists.mp stays
  exact ⟨grounded.perform operation, other, stored, fun attains =>
    lost (attains.before grounded cooperates found stored)⟩

/-- A port that a cooperating run configures is configured, or recoverable. -/
theorem Grounded.attains (grounded : impl.Grounded runtime)
    (found : impl.records[port]? = some record) (reaches : impl.ReachesConfigured runtime port) :
    impl.Attains runtime record := by
  by_contra lost
  obtain ⟨finish, final, leads, stored, configured⟩ := reaches
  have loses : finish.Loses runtime port := by
    refine Runs.Reaches.keeps (fun state operation cooperates loses => ?_) leads
      ⟨grounded, record, found, lost⟩
    exact Loses.perform loses cooperates
  obtain ⟨_, kept, present, lost⟩ := loses
  cases stored.symm.trans present
  exact lost (.inl configured)

end EngineImpl

end Steps

end PortFabric
