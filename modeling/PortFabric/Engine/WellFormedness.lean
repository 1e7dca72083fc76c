import PortFabric.Engine.AuthorityProperties
import PortFabric.Engine.RecordInvariants
import PortFabric.Engine.RecordSteps

/-!
# Well-formed states

What every reachable state guarantees of its records and its publisher table,
whatever containers were loaded and whatever the adapters answered.
-/

set_option autoImplicit false

namespace PortFabric

open Checks

/--
A record as every writer leaves it. The record of an uncertain apply is stored
unvalidated: its text and the standing of an unconfigured port stay open.
-/
structure PortRecord.Formed (record : PortRecord) : Prop where
  port : record.port.valid = true
  device : record.parentDevice.valid = true
  drift : record.drift.isValid = true
  outcome : record.applied.outcome.isValid = true
  capability : record.capability.valid = true
  ownership : record.ownershipConsistent = true
  configuration : record.configuration.isSome = true → record.validateConfiguration = .ok ()
  live : record.lifecycle.isLive = true → record.configuration.isSome = true
  reason : validateText record.statusReason maxNameLength = .ok ()

/-- The standing of the record is one a record without a configuration may have. -/
def PortRecord.Settled (record : PortRecord) : Prop :=
  record.configuration.isSome = true ∨ record.lifecycle = .unconfigured ∨
    record.lifecycle = .retired ∨ record.lifecycle = .superseded

instance (record : PortRecord) : Decidable record.Settled := by
  unfold PortRecord.Settled
  infer_instance

namespace PortRecord

variable {record : PortRecord}

theorem validateConfiguration_none (unbound : record.configuration = none) :
    record.validateConfiguration = .ok () ↔
      record.lifecycle = .unconfigured ∨ record.lifecycle = .retired ∨
        record.lifecycle = .superseded := by
  simp [validateConfiguration, unbound, or_assoc]

theorem validateConfiguration_some {other : PortRecord} {committed : PortConfiguration}
    (bound : record.configuration = some committed)
    (configuration : other.configuration = record.configuration)
    (port : other.port = record.port) (device : other.parentDevice = record.parentDevice)
    (generation : other.generations.configuration = record.generations.configuration) :
    other.validateConfiguration = record.validateConfiguration := by
  simp only [validateConfiguration, configuration, bound, port, device, generation]

theorem Settled.of_validateConfiguration (consistent : record.validateConfiguration = .ok ()) :
    record.Settled := by
  cases bound : record.configuration with
  | some committed => exact .inl (by rw [bound]; rfl)
  | none => exact .inr ((validateConfiguration_none bound).mp consistent)

theorem formed_of_valid (valid : record.validate = .ok ()) : record.Formed := by
  simp only [validate, within_eq_ok, require_eq_ok, and_true] at valid
  obtain ⟨port, device, _, drift, outcome, capability, ownership, configuration, reason, _⟩ := valid
  refine ⟨port, device, drift, outcome, capability, ownership, fun _ => configuration,
    fun live => ?_, reason⟩
  obtain bound | same | same | same := Settled.of_validateConfiguration configuration
  · exact bound
  · rw [same] at live
    cases live
  · rw [same] at live
    cases live
  · rw [same] at live
    cases live

theorem Formed.validate_iff (formed : record.Formed) :
    record.validate = .ok () ↔
      record.Settled ∧ validateText record.statusDetail maxDescriptionLength = .ok () := by
  simp only [validate, within_eq_ok, require_eq_ok, and_true]
  constructor
  · intro given
    rcases given with ⟨_, _, _, _, _, _, _, configuration, _, detail⟩
    exact ⟨.of_validateConfiguration configuration, detail⟩
  · intro given
    rcases given with ⟨settled, detail⟩
    refine ⟨formed.port, formed.device, rfl, formed.drift, formed.outcome, formed.capability,
      formed.ownership, ?_, formed.reason, detail⟩
    cases bound : record.configuration with
    | some committed => exact formed.configuration (by rw [bound]; rfl)
    | none =>
        refine (validateConfiguration_none bound).mpr (settled.resolve_left ?_)
        rw [bound]
        simp

theorem Formed.released {reason detail : Text} (formed : record.Formed)
    (text : validateText reason maxNameLength = .ok ()) : (record.released reason detail).Formed :=
  { formed with ownership := rfl, reason := text }

theorem Formed.uncertain (formed : record.Formed) (runtime : Runtime)
    (authority : AuthorityContext) (generation : PortConfigurationGeneration) (detail : Text) :
    (record.uncertain runtime authority generation .outcomeUnknown detail).Formed := by
  have reason : validateText (text "APPLY_OUTCOME_UNKNOWN") maxNameLength = .ok () := by decide
  have fenced := record.uncertain_not_live runtime authority generation detail
  obtain ⟨_, _, applied, _, same, unknown, _⟩ :=
    record.uncertain_eq runtime authority generation detail
  refine ⟨?_, ?_, ?_, ?_, ?_, ?_, fun bound => ?_, fun live => ?_, ?_⟩
  · simpa using formed.port
  · simpa using formed.device
  · rw [same]
    rfl
  · rw [PortRecord.uncertain_applied]
    rfl
  · simpa using formed.capability
  · simpa [ownershipConsistent] using formed.ownership
  · rw [uncertain_configuration] at bound
    obtain ⟨committed, held⟩ := Option.isSome_iff_exists.mp bound
    rw [validateConfiguration_some held (by simp) (by simp) (by simp) (by simp)]
    exact formed.configuration bound
  · rw [fenced] at live
    cases live
  · rw [same]
    exact reason

theorem released_validate {reason detail : Text} (valid : record.validate = .ok ())
    (texts : StatusTexts reason detail) : (record.released reason detail).validate = .ok () := by
  simp only [validate, within_eq_ok, require_eq_ok, and_true] at valid ⊢
  obtain ⟨port, device, lifecycle, drift, outcome, capability, _, configuration, _, _⟩ := valid
  exact ⟨port, device, lifecycle, drift, outcome, capability, rfl, configuration, texts.reason,
    texts.detail⟩

theorem recoverOwnership_validate (valid : record.validate = .ok ()) :
    record.recoverOwnership.validate = .ok () := by
  unfold recoverOwnership
  split
  · exact valid
  · exact released_validate valid ⟨by decide, by decide⟩

theorem recoverEvidence_validate (valid : record.validate = .ok ()) :
    record.recoverEvidence.validate = .ok () := by
  unfold recoverEvidence
  split
  · simp only [validate, within_eq_ok, require_eq_ok, and_true] at valid ⊢
    obtain ⟨port, device, lifecycle, drift, _, rest⟩ := valid
    exact ⟨port, device, lifecycle, drift, rfl, rest⟩
  · exact valid

theorem recoverLifecycle_validate (valid : record.validate = .ok ()) :
    record.recoverLifecycle.validate = .ok () := by
  unfold recoverLifecycle
  split
  · next committed =>
      simp only [validate, within_eq_ok, require_eq_ok, and_true] at valid ⊢
      obtain ⟨port, device, _, _, outcome, capability, ownership, configuration, _, _⟩ := valid
      obtain ⟨held, bound⟩ := Option.isSome_iff_exists.mp committed.1
      have reason : validateText (text "RECOVERED_FROM_PERSISTENCE") maxNameLength = .ok () := by
        decide
      have detail : validateText
          (text ("durable desired configuration recovered; revalidation against current device, " ++
            "topology and capability generations is required before it is trusted again"))
          maxDescriptionLength = .ok () := by
        decide +kernel
      refine ⟨port, device, rfl, rfl, outcome, capability, ownership, ?_, reason, detail⟩
      rw [← configuration]
      exact validateConfiguration_some bound rfl rfl rfl rfl
  · exact valid

/-- The recovery of a valid record is valid, so that a restore never stops at one. -/
theorem recovered_validate (valid : record.validate = .ok ()) :
    record.recovered.validate = .ok () :=
  recoverLifecycle_validate (recoverEvidence_validate (recoverOwnership_validate valid))

theorem settledWith_validate {applied : AppliedEvidence} {drift : DriftState}
    {evidence : EvidenceGeneration} (valid : record.validate = .ok ())
    (legalDrift : record.drift.isValid = true → drift.isValid = true)
    (legalOutcome : record.applied.outcome.isValid = true → applied.outcome.isValid = true) :
    (record.settledWith applied drift evidence).validate = .ok () := by
  simp only [validate, within_eq_ok, require_eq_ok, and_true] at valid ⊢
  obtain ⟨port, device, lifecycle, drift, outcome, rest⟩ := valid
  exact ⟨port, device, lifecycle, legalDrift drift, legalOutcome outcome, rest⟩

end PortRecord

section Records

variable {runtime : Runtime} {impl : EngineImpl}

theorem Commits.final_validate {mutation : Mutation} {answers : MutationAnswers}
    {snapshot final : PortRecord} {plan : MutationPlan}
    (commits : Commits runtime mutation answers impl snapshot plan final) :
    final.validate = .ok () := by
  obtain ⟨_, proposal, applied, drift, evidence, _, validated, rfl, legalDrift, legalOutcome⟩ :=
    commits.spec
  exact PortRecord.settledWith_validate validated legalDrift legalOutcome

theorem RecordsEffect.formed {operation : Operation} {before after : RecordMap}
    (effect : RecordsEffect operation before after)
    (every : OrderedMap.Every (fun _ record => record.Formed) before) :
    OrderedMap.Every (fun _ record => record.Formed) after := by
  cases effect with
  | unchanged => exact every
  | bound requested absent named validated =>
      exact every.insert (PortRecord.formed_of_valid validated)
  | released held texts =>
      refine every.map fun port record formed => ?_
      split
      · exact formed.released texts.reason
      · exact formed

theorem perform_formed (operation : Operation)
    (every : OrderedMap.Every (fun _ record => record.Formed) impl.records) :
    OrderedMap.Every (fun _ record => record.Formed) (impl.perform runtime operation).records := by
  cases operation with
  | mutate mutation answers =>
      have effect := executeMutation_records runtime mutation answers impl
      rw [EngineImpl.perform]
      generalize (executeMutation runtime mutation answers impl).1.records = after at effect ⊢
      cases effect with
      | unrecorded _ _ => exact every
      | committed commits => exact every.insert (PortRecord.formed_of_valid commits.final_validate)
      | doubted doubts =>
          exact every.insert ((every _ _ doubts.toPlanned.snapshot_found).uncertain _ _ _ _)
  | load container =>
      rcases load_records runtime impl container with same | recovered
      · rw [EngineImpl.perform, same]
        exact every
      · exact recovered.imp fun _ _ record => PortRecord.formed_of_valid record.2
  | bindPort | defineProfile | beginEpoch | registerPublisher | fencePublisher | registerDevice
  | setTopologyGeneration | save | shutdown =>
      exact (perform_records (by simp) rfl).formed every

end Records

/-- An incarnation that is not fenced is completely named. -/
def PublisherRecord.Named (publisher : PublisherId) (found : PublisherRecord) : Prop :=
  found.fenced = false →
    publisher.valid = true ∧ found.boot.valid = true ∧ found.epoch.valid = true

namespace EngineImpl

variable {runtime : Runtime} {impl : EngineImpl}

/-- Unfenced incarnations are completely named. -/
def PublishersNamed (impl : EngineImpl) : Prop :=
  OrderedMap.Every PublisherRecord.Named impl.publishers

theorem PublishersNamed.authorised {mutation : Mutation} (named : impl.PublishersNamed) :
    (impl.authorised runtime mutation).PublishersNamed := by
  rcases checkAuthority_eq runtime impl mutation.authority with same | accepted
  · rw [EngineImpl.authorised, same]
    exact named
  · obtain ⟨complete, _, ⟨_, _, _, _, same⟩ | ⟨_, _, _, registered⟩⟩ := checkAuthority_ok accepted
    · rw [EngineImpl.authorised, same]
      exact named
    · simp only [AuthorityContext.valid, Bool.and_eq_true] at complete
      rw [EngineImpl.authorised, registered]
      exact OrderedMap.Every.insert named
        fun _ => ⟨complete.1.1.2, complete.1.2, complete.1.1.1⟩

theorem PublishersNamed.executeMutation {mutation : Mutation} {answers : MutationAnswers}
    (named : impl.PublishersNamed) :
    (executeMutation runtime mutation answers impl).1.PublishersNamed := by
  have effect := executeMutation_effect runtime mutation answers impl
  generalize (PortFabric.executeMutation runtime mutation answers impl).1 = after at effect ⊢
  have authorised : (impl.authorised runtime mutation).PublishersNamed := named.authorised
  unfold PublishersNamed at authorised ⊢
  cases effect with
  | unrecorded _ _ frame =>
      rcases frame with rfl | rfl
      · exact named
      · exact authorised
  | committed _ => simpa using authorised
  | doubted _ => simpa using authorised

theorem PublishersNamed.perform (named : impl.PublishersNamed)
    (consistent : impl.PublishersConsistent) (operation : Operation) :
    (impl.perform runtime operation).PublishersNamed := by
  have frame := perform_setting runtime impl operation
  cases operation with
  | bindPort request answers =>
      rw [PublishersNamed, EngineImpl.perform, (bindPort_effect runtime impl request answers).2.1]
      exact named
  | mutate mutation answers => exact named.executeMutation
  | beginEpoch =>
      obtain ⟨same, _⟩ | ⟨_, _, _, after⟩ := beginEpoch_effect_cases impl
      · rw [EngineImpl.perform, same]
        exact named
      · rw [PublishersNamed, EngineImpl.perform, after]
        refine OrderedMap.Every.map named fun publisher found before unfenced => ?_
        unfold fencedBefore at unfenced ⊢
        split at unfenced
        · cases unfenced
        · next kept =>
            rw [if_neg kept]
            exact before unfenced
  | registerPublisher publisher boot epoch =>
      obtain ⟨same, _⟩ | ⟨entry, after, _, accepted, _, booted, _, current⟩ :=
        registerPublisher_effect consistent publisher boot epoch
      · rw [EngineImpl.perform, same]
        exact named
      · rw [PublishersNamed, EngineImpl.perform, after]
        refine OrderedMap.Every.insert named fun _ => ⟨accepted.publisherNamed, ?_, ?_⟩
        · rw [booted]
          exact accepted.bootNamed
        · rw [current, ← accepted.current]
          exact accepted.epochNamed
  | fencePublisher publisher boot =>
      obtain ⟨same, _⟩ | ⟨_, _, _, _, _, after⟩ := fencePublisher_effect_cases impl publisher boot
      · rw [EngineImpl.perform, same]
        exact named
      · rw [PublishersNamed, EngineImpl.perform, after]
        exact OrderedMap.Every.insert named fun unfenced => by cases unfenced
  | load container =>
      obtain ⟨_, _, same⟩ | ⟨state, _, loaded⟩ := load_effect runtime impl container
      · rw [PublishersNamed, EngineImpl.perform, same]
        exact named
      · rw [PublishersNamed, EngineImpl.perform, loaded.publishers]
        exact (recoverAuthority_publishers impl state _).imp fun _ _ stored unfenced => by
          simp [stored.2] at unfenced
  | defineProfile | registerDevice | setTopologyGeneration | save | shutdown =>
      rw [PublishersNamed, (frame rfl).publishers]
      exact named

/-- No ownership was granted under an epoch to come. -/
def OwnershipsGranted (impl : EngineImpl) : Prop :=
  OrderedMap.Every
    (fun _ (record : PortRecord) => ∀ ownership, record.ownership = some ownership →
      ownership.epoch ≤ impl.epoch)
    impl.records

/-- A committed ownership was held before, or is granted under the current epoch. -/
theorem Commits.ownership_source {mutation : Mutation} {answers : MutationAnswers}
    {snapshot final : PortRecord} {plan : MutationPlan} {ownership : PortOwnership}
    (commits : Commits runtime mutation answers impl snapshot plan final)
    (owned : final.ownership = some ownership) :
    snapshot.ownership = some ownership ∨ ownership.epoch = impl.epoch := by
  have current := (checkAuthority_ok commits.authorised).2.1
  obtain ⟨_, proposal, _, _, _, built, _, rfl, _⟩ := commits.spec
  have proposed : proposal.next.ownership = some ownership := owned
  cases Mutation.build_ownership built with
  | kept same _ => exact .inl (same.symm.trans proposed)
  | ended none _ =>
      rw [none] at proposed
      cases proposed
  | claimed requested _ fresh _ =>
      subst requested
      rw [fresh] at proposed
      cases proposed
      exact .inr current
  | transferred requested fresh _ =>
      subst requested
      rw [fresh] at proposed
      cases proposed
      exact .inr current

theorem Commits.ownership_granted {mutation : Mutation} {answers : MutationAnswers}
    {snapshot final : PortRecord} {plan : MutationPlan}
    (commits : Commits runtime mutation answers impl snapshot plan final)
    (granted : impl.OwnershipsGranted) (ownership : PortOwnership)
    (owned : final.ownership = some ownership) : ownership.epoch ≤ impl.epoch := by
  rcases Commits.ownership_source commits owned with held | current
  · exact granted _ _ commits.toPlanned.snapshot_found ownership held
  · exact Nat.le_of_eq (congrArg Generation.value current)

theorem OwnershipsGranted.perform (granted : impl.OwnershipsGranted) (operation : Operation) :
    (impl.perform runtime operation).OwnershipsGranted := by
  have later : impl.epoch ≤ (impl.perform runtime operation).epoch :=
    impl.epoch_le_perform operation
  intro port record found ownership owned
  cases record_step found with
  | kept stored => exact Generation.le_trans (granted _ _ stored ownership owned) later
  | bound evidence _ => cases owned
  | released reason detail _ => cases owned
  | committed commits =>
      exact Generation.le_trans (Commits.ownership_granted commits granted ownership owned) later
  | doubted doubts =>
      rw [PortRecord.uncertain_ownership] at owned
      exact Generation.le_trans
        (granted _ _ doubts.toPlanned.snapshot_found ownership owned) later
  | recovered _ _ =>
      rw [PortRecord.recovered_ownership] at owned
      cases owned

/-- What every reachable state guarantees. -/
structure WellFormed (impl : EngineImpl) : Prop where
  keyed : OrderedMap.Every (fun port (record : PortRecord) => record.port = port) impl.records
  formed : OrderedMap.Every (fun _ record => record.Formed) impl.records
  consistent : impl.PublishersConsistent
  named : impl.PublishersNamed
  granted : impl.OwnershipsGranted

theorem WellFormed.perform (wellFormed : impl.WellFormed) (operation : Operation) :
    (impl.perform runtime operation).WellFormed where
  keyed := perform_keyed operation wellFormed.keyed
  formed := perform_formed operation wellFormed.formed
  consistent := wellFormed.consistent.perform operation
  named := wellFormed.named.perform wellFormed.consistent operation
  granted := wellFormed.granted.perform operation

theorem after_wellFormed (runtime : Runtime) (operations : List Operation) :
    (after runtime operations).WellFormed :=
  Runs.invariant (fun _ operation wellFormed => wellFormed.perform operation)
    ⟨OrderedMap.Every.empty, OrderedMap.Every.empty, OrderedMap.Every.empty,
      OrderedMap.Every.empty, OrderedMap.Every.empty⟩ operations

/-- A live incarnation of a well-formed table is completely named under the current epoch. -/
theorem WellFormed.alive_named (wellFormed : impl.WellFormed) {publisher : PublisherId}
    {boot : WorkerBootId} (alive : impl.Alive publisher boot) :
    publisher.valid = true ∧ boot.valid = true ∧ impl.epoch.valid = true := by
  obtain ⟨found, present, rfl, unfenced⟩ := alive
  obtain ⟨named, booted, epoch⟩ := wellFormed.named publisher found present unfenced
  exact ⟨named, booted, (wellFormed.consistent publisher found present).2 unfenced ▸ epoch⟩

end EngineImpl

end PortFabric
