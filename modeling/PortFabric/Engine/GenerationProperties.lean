import PortFabric.Engine.RecordSteps

/-!
# Properties of generations

Each counter of a record stands for a content: no writer changes the content
without advancing the counter, and the counters that are not copied from
evidence only advance.
-/

set_option autoImplicit false

namespace PortFabric

open PortFabricEngine

/-- The counter advanced, or it and the content it stands for are kept. -/
def Counted {α : Type} {domain : GenerationDomain} (content : PortRecord → α)
    (counter : GenerationVector → Generation domain) (before after : PortRecord) : Prop :=
  counter after.generations = (counter before.generations).advance ∨
    counter after.generations = counter before.generations ∧ content after = content before

namespace Counted

variable {α : Type} {domain : GenerationDomain} {content : PortRecord → α}
  {counter : GenerationVector → Generation domain} {before after : PortRecord}

theorem kept (same : counter after.generations = counter before.generations)
    (unchanged : content after = content before) : Counted content counter before after :=
  .inr ⟨same, unchanged⟩

theorem le (counted : Counted content counter before after) :
    counter before.generations ≤ counter after.generations := by
  obtain advanced | ⟨same, _⟩ := counted
  · rw [advanced]
    exact Generation.le_advance _
  · rw [same]
    exact Generation.le_refl _

/-- A changed content has a greater counter exactly when the counter had room to advance. -/
theorem lt_iff (counted : Counted content counter before after)
    (changed : content before ≠ content after) :
    counter before.generations < counter after.generations ↔
      (counter before.generations).exhaustible = false := by
  obtain advanced | ⟨_, same⟩ := counted
  · rw [advanced]
    constructor
    · intro less
      by_contra full
      have stuck := Generation.advance_eq_self_iff.mpr (by simpa using full)
      exact Generation.ne_of_lt less stuck.symm
    · exact Generation.lt_advance
  · exact absurd same.symm changed

end Counted

/-- The administrative state of the committed configuration. -/
def PortRecord.administrative? (record : PortRecord) : Option AdministrativeState :=
  record.configuration.map PortConfiguration.administrative

/--
The committed configuration apart from its administrative state, which has a
counter of its own, and from the bookkeeping that its comparison skips.
-/
def PortRecord.settings (record : PortRecord) : Option PortConfiguration :=
  record.configuration.map fun configuration =>
    { configuration with
      administrative := .unknown
      provenance :=
        { configuration.provenance with boot := .null, epoch := .null, attempt := .null }
      evidenceGeneration := .null }

/-- The contents of a record, apart from the settings, are counted. -/
structure ContentsCounted (before after : PortRecord) : Prop where
  lifecycle : Counted PortRecord.lifecycle GenerationVector.lifecycle before after
  ownership : Counted PortRecord.ownership GenerationVector.ownership before after
  administrative :
    Counted PortRecord.administrative? GenerationVector.administrative before after

/--
The settings are counted, but an administrative mutation, which rewrites the
provenance of the configuration, leaves their counter.
-/
def SettingsCounted (mutation : Mutation) (before after : PortRecord) : Prop :=
  if mutation.kind = .administrative then
    after.generations.configuration = before.generations.configuration
  else
    Counted PortRecord.settings GenerationVector.configuration before after

/-- No counter of the first vector is beyond that of the second. -/
structure GenerationVector.Precedes (before after : GenerationVector) : Prop where
  configuration : before.configuration ≤ after.configuration
  administrative : before.administrative ≤ after.administrative
  ownership : before.ownership ≤ after.ownership
  capability : before.capability ≤ after.capability
  topology : before.topology ≤ after.topology
  device : before.device ≤ after.device
  lifecycle : before.lifecycle ≤ after.lifecycle
  evidence : before.evidence ≤ after.evidence

theorem GenerationVector.Precedes.refl (generations : GenerationVector) :
    generations.Precedes generations :=
  ⟨Generation.le_refl _, Generation.le_refl _, Generation.le_refl _, Generation.le_refl _,
    Generation.le_refl _, Generation.le_refl _, Generation.le_refl _, Generation.le_refl _⟩

section Records

variable {record other : PortRecord}

theorem ContentsCounted.refl (record : PortRecord) : ContentsCounted record record :=
  ⟨.kept rfl rfl, .kept rfl rfl, .kept rfl rfl⟩

theorem SettingsCounted.le {mutation : Mutation} {before after : PortRecord}
    (counted : SettingsCounted mutation before after) :
    before.generations.configuration ≤ after.generations.configuration := by
  unfold SettingsCounted at counted
  split at counted
  · rw [counted]
    exact Generation.le_refl _
  · exact counted.le

theorem PortRecord.released_counted (record : PortRecord) (reason detail : Text) :
    ContentsCounted record (record.released reason detail) :=
  ⟨.kept rfl rfl, .inl rfl, .kept rfl rfl⟩

theorem PortRecord.uncertain_counted (record : PortRecord) (runtime : Runtime)
    (authority : AuthorityContext) (generation : PortConfigurationGeneration) (detail : Text) :
    ContentsCounted record
      (record.uncertain runtime authority generation .outcomeUnknown detail) := by
  refine ⟨?_, .kept (by simp) (by simp), ?_⟩
  · unfold uncertain
    simp only [if_true]
    split
    · exact .inl rfl
    · exact .kept rfl rfl
  · obtain ⟨_, _, _, _, same, _⟩ := record.uncertain_eq runtime authority generation detail
    rw [same]
    exact .kept rfl rfl

theorem PortRecord.disowned_counted (record : PortRecord) (retire : Bool) :
    ContentsCounted record (if retire then record.withoutOwnership else record) := by
  unfold withoutOwnership
  split
  · split
    · exact .refl record
    · exact ⟨.kept rfl rfl, .inl rfl, .kept rfl rfl⟩
  · exact .refl record

theorem PortRecord.reexamined_counted (record : PortRecord) (binding : CapabilityBinding) :
    ContentsCounted record (record.reexamined binding) := by
  unfold reexamined
  split
  · exact .refl record
  · split
    · exact ⟨.kept rfl rfl, .kept rfl rfl, .kept rfl rfl⟩
    · exact ⟨.inl rfl, .kept rfl rfl, .kept rfl rfl⟩

theorem PortRecord.evidenced_counted (record : PortRecord) (evidence : AppliedEvidence) :
    ContentsCounted record (record.evidenced evidence) := by
  have lifecycle :
      Counted lifecycle GenerationVector.lifecycle record (record.evidenced evidence) := by
    unfold evidenced judged
    dsimp only
    split
    · exact .kept rfl rfl
    · exact .kept rfl rfl
    · split
      · exact .inl rfl
      · exact .kept rfl rfl
    · exact .kept rfl rfl
    · exact .kept rfl rfl
  obtain ⟨_, _, _, _, _, _, _, same, _⟩ := record.evidenced_eq evidence
  rw [same] at lifecycle ⊢
  exact ⟨lifecycle, .kept rfl rfl, .kept rfl rfl⟩

theorem PortRecord.drifted_counted (record : PortRecord) (observed : DriftState) (detail : Text) :
    ContentsCounted record (record.drifted observed detail) := by
  have lifecycle :
      Counted lifecycle GenerationVector.lifecycle record (record.drifted observed detail) := by
    unfold drifted PortRecord.observed
    split
    · split
      · exact .inl rfl
      · exact .kept rfl rfl
    · dsimp only
      split
      · exact .inl rfl
      · exact .kept rfl rfl
    · exact .kept rfl rfl
    · exact .kept rfl rfl
  obtain ⟨_, _, _, _, _, same, _⟩ := record.drifted_eq observed detail
  rw [same] at lifecycle ⊢
  exact ⟨lifecycle, .kept rfl rfl, .kept rfl rfl⟩

end Records

section Commits

variable {runtime : Runtime} {impl : EngineImpl} {mutation : Mutation} {answers : MutationAnswers}
  {snapshot final : PortRecord} {plan : MutationPlan}

/-- No builder changes a content of the record without advancing its counter. -/
theorem Proposal.counted {input : MutationBuildInput} (proposed : Proposal mutation input plan) :
    ContentsCounted input.current plan.next := by
  cases proposed with
  | configured _ _ _ _ planned =>
      rw [planned]
      exact ⟨.inl rfl, .kept rfl rfl, .inl rfl⟩
  | replaced _ present _ _ administrative planned =>
      rw [planned]
      refine ⟨.inl rfl, .kept rfl rfl, .kept rfl ?_⟩
      rw [PortRecord.administrative?, PortRecord.administrative?, present]
      exact congrArg some administrative
  | administered requested present _ _ _ next =>
      rw [next]
      exact ⟨.inl rfl, .kept rfl rfl, .inl rfl⟩
  | @rebound request _ _ next =>
      rw [next]
      have counted := (input.current.withEvidence request.binding).reexamined_counted
        request.binding
      exact ⟨counted.lifecycle, counted.ownership, counted.administrative⟩
  | reconciled _ present _ administrative planned =>
      rw [planned]
      refine ⟨.inl rfl, .kept rfl rfl, .kept rfl ?_⟩
      rw [PortRecord.administrative?, PortRecord.administrative?, present]
      exact congrArg some administrative
  | @fenced lifecycle reason detail retire _ _ _ _ next =>
      have counted := (input.current.fenced lifecycle reason detail).disowned_counted retire
      obtain ⟨_, _, same⟩ := (input.current.fenced lifecycle reason detail).disowned_eq retire
      rw [next]
      dsimp only
      refine ⟨?_, counted.ownership, counted.administrative⟩
      rw [same]
      exact .inl rfl
  | reowned _ _ next =>
      rw [next]
      exact ⟨.kept rfl rfl, .inl rfl, .kept rfl rfl⟩
  | @evidenced request _ _ _ _ next =>
      rw [next]
      exact input.current.evidenced_counted request.evidence
  | @observed request _ _ next =>
      rw [next]
      exact input.current.drifted_counted request.observed request.detail

theorem Proposal.settings_counted {input : MutationBuildInput}
    (proposed : Proposal mutation input plan) :
    SettingsCounted mutation input.current plan.next := by
  have unchanged (other : mutation.kind ≠ .administrative)
      (counter : plan.next.generations.configuration = input.current.generations.configuration)
      (configuration : plan.next.configuration = input.current.configuration) :
      SettingsCounted mutation input.current plan.next := by
    rw [SettingsCounted, if_neg other]
    exact .kept counter (congrArg (Option.map _) configuration)
  cases proposed with
  | configured requested _ _ _ planned =>
      subst requested planned
      exact .inl rfl
  | replaced requested _ _ _ _ planned =>
      have other : mutation.kind ≠ .administrative := by
        rcases requested with same | same <;> simp [same]
      rw [SettingsCounted, if_neg other, planned]
      exact .inl rfl
  | administered requested _ _ _ _ next =>
      subst requested
      rw [next]
      rfl
  | @rebound request requested _ next =>
      obtain ⟨_, _, _, _, _, same, _⟩ :=
        (input.current.withEvidence request.binding).reexamined_eq request.binding
      rw [same] at next
      refine unchanged ?_ (by rw [next]; rfl) (by rw [next]; rfl)
      rw [requested]
      exact nofun
  | reconciled requested _ _ _ planned =>
      subst requested planned
      exact .inl rfl
  | @fenced lifecycle reason detail retire requested _ _ _ next =>
      obtain ⟨_, _, same⟩ := (input.current.fenced lifecycle reason detail).disowned_eq retire
      dsimp only at next
      rw [same] at next
      refine unchanged ?_ (by rw [next]; rfl) (by rw [next]; rfl)
      split at requested <;> simp [requested]
  | reowned requested _ next =>
      refine unchanged ?_ (by rw [next]; rfl) (by rw [next]; rfl)
      rcases requested with same | same | same <;> simp [same]
  | @evidenced request requested _ _ _ next =>
      obtain ⟨_, _, _, _, _, _, _, same, _⟩ := input.current.evidenced_eq request.evidence
      rw [same] at next
      refine unchanged ?_ (by rw [next]) (by rw [next])
      rw [requested]
      exact nofun
  | @observed request requested _ next =>
      obtain ⟨_, _, _, _, _, same, _⟩ :=
        input.current.drifted_eq request.observed request.detail
      rw [same] at next
      refine unchanged ?_ (by rw [next]) (by rw [next])
      rw [requested]
      exact nofun

theorem Commits.counted (commits : Commits runtime mutation answers impl snapshot plan final) :
    ContentsCounted snapshot final ∧ SettingsCounted mutation snapshot final := by
  obtain ⟨_, _, _, _, _, proposed, _, _, rfl, _⟩ := commits.settlement
  have counted := proposed.counted
  exact ⟨⟨counted.lifecycle, counted.ownership, counted.administrative⟩, proposed.settings_counted⟩

end Commits

section Operations

variable {runtime : Runtime} {impl : EngineImpl}

/-- No operation but a load changes a record without advancing the engine generation. -/
theorem EngineImpl.perform_stamps {operation : Operation} (unloaded : operation.isLoad = false) :
    impl.Stamps (impl.perform runtime operation) := by
  have frame := perform_setting runtime impl operation
  cases operation with
  | bindPort request answers => exact bindPort_stamps runtime impl request answers
  | mutate mutation answers => exact executeMutation_stamps runtime mutation answers impl
  | beginEpoch =>
      rw [perform, PortFabricEngine.beginEpoch]
      split
      · exact .refl impl
      · split
        · exact .refl impl
        · exact releaseWhere_stamps
  | registerPublisher publisher boot epoch =>
      obtain ⟨_, same⟩ := registerPublisher_frame impl publisher boot epoch
      rw [perform, same]
      exact .inl ⟨rfl, rfl⟩
  | fencePublisher publisher boot =>
      rw [perform, PortFabricEngine.fencePublisher]
      split
      · exact .refl impl
      · split
        · exact .refl impl
        · split
          · exact .refl impl
          · split
            · exact .refl impl
            · exact releaseWhere_stamps
  | load container => simp [Operation.isLoad] at unloaded
  | defineProfile | registerDevice | setTopologyGeneration | save | shutdown =>
      exact .inl ⟨(frame rfl).records, (frame rfl).generation⟩

end Operations

end PortFabric
