import PortFabric.Engine.Commit
import PortFabric.Engine.PlanProperties

/-!
# Properties of commit

What a commit demands of the current record, and what a commit, a recorded
uncertainty, a release and automatic persistence leave unchanged.
-/

set_option autoImplicit false

namespace PortFabric

namespace PortRecord

variable (record : PortRecord) (runtime : Runtime) (authority : AuthorityContext)
  (generation : PortConfigurationGeneration) (detail : Text)

/-- The part of an uncertain record that does not depend on its lifecycle. -/
theorem uncertain_eq :
    ∃ (lifecycle : PortLifecycle) (advanced : LifecycleGeneration) (applied : AppliedEvidence)
      (provenance : Provenance),
      record.uncertain runtime authority generation .outcomeUnknown detail =
        { record with
          lifecycle, applied, provenance
          drift := .revalidationRequired
          statusReason := "APPLY_OUTCOME_UNKNOWN"
          statusDetail := detail
          generations :=
            { record.generations with
              lifecycle := advanced, evidence := record.generations.evidence.advance } } ∧
      applied.outcome = .outcomeUnknown ∧
      lifecycle =
        if record.lifecycle ≠ .retired ∧ record.lifecycle ≠ .superseded then .revalidationRequired
        else record.lifecycle := by
  unfold uncertain
  simp only [ite_true]
  split
  · exact ⟨_, _, _, _, rfl, rfl, rfl⟩
  · exact ⟨_, _, _, _, rfl, rfl, rfl⟩

@[simp] theorem uncertain_port :
    (record.uncertain runtime authority generation .outcomeUnknown detail).port = record.port := by
  obtain ⟨_, _, _, _, same, _⟩ := record.uncertain_eq runtime authority generation detail
  rw [same]

@[simp] theorem uncertain_parentDevice :
    (record.uncertain runtime authority generation .outcomeUnknown detail).parentDevice =
      record.parentDevice := by
  obtain ⟨_, _, _, _, same, _⟩ := record.uncertain_eq runtime authority generation detail
  rw [same]

@[simp] theorem uncertain_configuration :
    (record.uncertain runtime authority generation .outcomeUnknown detail).configuration =
      record.configuration := by
  obtain ⟨_, _, _, _, same, _⟩ := record.uncertain_eq runtime authority generation detail
  rw [same]

@[simp] theorem uncertain_ownership :
    (record.uncertain runtime authority generation .outcomeUnknown detail).ownership =
      record.ownership := by
  obtain ⟨_, _, _, _, same, _⟩ := record.uncertain_eq runtime authority generation detail
  rw [same]

@[simp] theorem uncertain_capability :
    (record.uncertain runtime authority generation .outcomeUnknown detail).capability =
      record.capability := by
  obtain ⟨_, _, _, _, same, _⟩ := record.uncertain_eq runtime authority generation detail
  rw [same]

@[simp] theorem uncertain_lastMutation :
    (record.uncertain runtime authority generation .outcomeUnknown detail).lastMutation =
      record.lastMutation := by
  obtain ⟨_, _, _, _, same, _⟩ := record.uncertain_eq runtime authority generation detail
  rw [same]

theorem uncertain_publisher :
    (record.uncertain runtime authority generation .outcomeUnknown detail).provenance.publisher =
      record.provenance.publisher := by
  unfold uncertain
  simp only [if_true]
  split <;> rfl

@[simp] theorem uncertain_generations_configuration :
    (record.uncertain runtime authority generation .outcomeUnknown
        detail).generations.configuration =
      record.generations.configuration := by
  obtain ⟨_, _, _, _, same, _⟩ := record.uncertain_eq runtime authority generation detail
  rw [same]

@[simp] theorem uncertain_generations_ownership :
    (record.uncertain runtime authority generation .outcomeUnknown detail).generations.ownership =
      record.generations.ownership := by
  obtain ⟨_, _, _, _, same, _⟩ := record.uncertain_eq runtime authority generation detail
  rw [same]

@[simp] theorem uncertain_generations_device :
    (record.uncertain runtime authority generation .outcomeUnknown detail).generations.device =
      record.generations.device := by
  obtain ⟨_, _, _, _, same, _⟩ := record.uncertain_eq runtime authority generation detail
  rw [same]

@[simp] theorem uncertain_generations_evidence :
    (record.uncertain runtime authority generation .outcomeUnknown detail).generations.evidence =
      record.generations.evidence.advance := by
  obtain ⟨_, _, _, _, same, _⟩ := record.uncertain_eq runtime authority generation detail
  rw [same]

/-- Retired and superseded ports keep their fencing, every other port loses its standing. -/
theorem uncertain_lifecycle :
    (record.uncertain runtime authority generation .outcomeUnknown detail).lifecycle =
      if record.lifecycle ≠ .retired ∧ record.lifecycle ≠ .superseded then .revalidationRequired
      else record.lifecycle := by
  obtain ⟨_, _, _, _, same, _, fenced⟩ := record.uncertain_eq runtime authority generation detail
  rw [same]
  exact fenced

/-- An uncertain apply is never recorded as verified. -/
theorem uncertain_unverified :
    (record.uncertain runtime authority generation .outcomeUnknown detail).applied.verified =
      false := by
  unfold uncertain
  simp only [if_true]
  split
  · rfl
  · rfl

theorem uncertain_applied :
    (record.uncertain runtime authority generation .outcomeUnknown detail).applied.outcome =
      .outcomeUnknown := by
  obtain ⟨_, _, _, _, same, unknown, _⟩ := record.uncertain_eq runtime authority generation detail
  rw [same]
  exact unknown

end PortRecord

namespace EngineImpl

theorem persistLockedState_eq (runtime : Runtime) (store : StoreAnswers) (impl : EngineImpl) :
    ∃ durabilityDirty,
      (impl.persistLockedState runtime store).1 = { impl with durabilityDirty } := by
  unfold persistLockedState
  split
  · exact ⟨impl.durabilityDirty, rfl⟩
  · split
    · exact ⟨impl.durabilityDirty, rfl⟩
    · exact ⟨_, rfl⟩

section Persisting

variable (runtime : Runtime) (store : StoreAnswers) (impl : EngineImpl)

@[simp] theorem persistLockedState_records :
    (impl.persistLockedState runtime store).1.records = impl.records := by
  obtain ⟨_, same⟩ := persistLockedState_eq runtime store impl
  rw [same]

@[simp] theorem persistLockedState_indexes :
    (impl.persistLockedState runtime store).1.indexes = impl.indexes := by
  obtain ⟨_, same⟩ := persistLockedState_eq runtime store impl
  rw [same]

@[simp] theorem persistLockedState_generation :
    (impl.persistLockedState runtime store).1.generation = impl.generation := by
  obtain ⟨_, same⟩ := persistLockedState_eq runtime store impl
  rw [same]

@[simp] theorem persistLockedState_publishers :
    (impl.persistLockedState runtime store).1.publishers = impl.publishers := by
  obtain ⟨_, same⟩ := persistLockedState_eq runtime store impl
  rw [same]

@[simp] theorem persistLockedState_devices :
    (impl.persistLockedState runtime store).1.devices = impl.devices := by
  obtain ⟨_, same⟩ := persistLockedState_eq runtime store impl
  rw [same]

@[simp] theorem persistLockedState_epoch :
    (impl.persistLockedState runtime store).1.epoch = impl.epoch := by
  obtain ⟨_, same⟩ := persistLockedState_eq runtime store impl
  rw [same]

@[simp] theorem persistLockedState_shuttingDown :
    (impl.persistLockedState runtime store).1.shuttingDown = impl.shuttingDown := by
  obtain ⟨_, same⟩ := persistLockedState_eq runtime store impl
  rw [same]

end Persisting

section Replacing

variable (impl : EngineImpl) (port : PortId) (before after : PortRecord)

@[simp] theorem replaceRecord_records :
    (impl.replaceRecord port before after).records = impl.records.insert port after := rfl

@[simp] theorem replaceRecord_indexes :
    (impl.replaceRecord port before after).indexes = impl.indexes.indexUpdate before after := rfl

@[simp] theorem replaceRecord_publishers :
    (impl.replaceRecord port before after).publishers = impl.publishers := rfl

@[simp] theorem replaceRecord_devices :
    (impl.replaceRecord port before after).devices = impl.devices := rfl

@[simp] theorem replaceRecord_epoch :
    (impl.replaceRecord port before after).epoch = impl.epoch := rfl

@[simp] theorem replaceRecord_shuttingDown :
    (impl.replaceRecord port before after).shuttingDown = impl.shuttingDown := rfl

end Replacing

section Committing

variable {impl committed : EngineImpl} {port : PortId} {plan : MutationPlan}
  {applied : AppliedEvidence} {settled : Bool}

theorem commitRecord_ok (stored : impl.commitRecord port plan applied settled = .ok committed) :
    ∃ current,
      impl.records[port]? = some current ∧
      ¬(current.lastMutation.attempt.valid = true ∧
        current.lastMutation.attempt = plan.next.lastMutation.attempt) ∧
      plan.expected = .capture current ∧
      (current.lifecycle = .retired → plan.next.lifecycle = .retired) ∧
      impl.generation.exhaustible = false ∧
      committed = impl.replaceRecord port current (committedRecord plan applied settled) := by
  unfold commitRecord at stored
  split at stored
  · cases stored
  · next current found =>
      split at stored
      · cases stored
      · next fresh =>
          split at stored
          · cases stored
          · next matching =>
              split at stored
              · cases stored
              · next terminal =>
                  split at stored
                  · cases stored
                  · next room =>
                      cases stored
                      refine ⟨current, found, fresh, ?_, ?_, by simpa using room, rfl⟩
                      · exact ExpectedState.matchesRecord_iff.mp (by simpa using matching)
                      · intro retired
                        by_contra alive
                        exact terminal ⟨retired, alive⟩

/-- A commit that finds the record it was planned from is stored. -/
theorem commitRecord_of_capture {current : PortRecord}
    (found : impl.records[port]? = some current)
    (fresh : ¬(current.lastMutation.attempt.valid = true ∧
      current.lastMutation.attempt = plan.next.lastMutation.attempt))
    (expected : plan.expected = .capture current)
    (terminal : current.lifecycle = .retired → plan.next.lifecycle = .retired)
    (room : impl.generation.exhaustible = false) :
    impl.commitRecord port plan applied settled =
      .ok (impl.replaceRecord port current (committedRecord plan applied settled)) := by
  have matching : plan.expected.matchesRecord current = true :=
    ExpectedState.matchesRecord_iff.mpr expected
  have kept : ¬(current.lifecycle = .retired ∧ plan.next.lifecycle ≠ .retired) :=
    fun ⟨retired, alive⟩ => alive (terminal retired)
  simp only [commitRecord, found, fresh, matching, kept, room, if_false, Bool.not_true,
    Bool.false_eq_true]

/-- A commit that is refused is not answered with success. -/
theorem commitRecord_error_code {result : MutationResult}
    (refused : impl.commitRecord port plan applied settled = .error result) :
    result.outcome.code ≠ .ok := by
  unfold commitRecord at refused
  split at refused
  · cases refused
    nofun
  · split at refused
    · cases refused
      nofun
    · split at refused
      · cases refused
        simp [MutationResult.reporting, Outcome.failure]
      · split at refused
        · cases refused
          nofun
        · split at refused
          · cases refused
            nofun
          · cases refused

end Committing

section Stamps

/-- The records and the engine generation are kept, or the generation advances. -/
def Stamps (before after : EngineImpl) : Prop :=
  after.records = before.records ∧ after.generation = before.generation ∨
    after.generation = before.generation.advance

variable {before after : EngineImpl}

theorem Stamps.refl (impl : EngineImpl) : impl.Stamps impl := .inl ⟨rfl, rfl⟩

theorem Stamps.le (stamps : before.Stamps after) : before.generation ≤ after.generation := by
  obtain ⟨_, same⟩ | advanced := stamps
  · rw [same]
    exact Generation.le_refl _
  · rw [advanced]
    exact Generation.le_advance _

/-- While the generation has room, a step that does not advance it keeps the records. -/
theorem Stamps.kept (stamps : before.Stamps after) (room : before.generation.exhaustible = false)
    (same : after.generation = before.generation) : after.records = before.records := by
  obtain ⟨kept, _⟩ | advanced := stamps
  · exact kept
  · rw [same] at advanced
    exact absurd advanced (Generation.ne_of_lt (Generation.lt_advance room))

end Stamps

section Releasing

variable {impl : EngineImpl} {held : PortRecord → Bool} {reason detail : Text}

theorem releaseWhere_lookup (port : PortId) :
    (impl.releaseWhere held reason detail).records[port]? =
      (impl.records[port]?).map fun record =>
        if held record then record.released reason detail else record :=
  OrderedMap.lookup_map ..

/-- A release that finds no record changes nothing, and any other one is counted. -/
theorem releaseWhere_stamps : impl.Stamps (impl.releaseWhere held reason detail) := by
  cases none : ((impl.records.toList.map Prod.snd).filter held).isEmpty with
  | false => exact .inr (by simp only [releaseWhere, none, Bool.false_eq_true, if_false])
  | true =>
      refine .inl ⟨?_, by simp only [releaseWhere, none, if_true]⟩
      apply Std.ExtTreeMap.ext_getElem?
      intro port
      rw [releaseWhere_lookup]
      cases found : impl.records[port]? with
      | none => rfl
      | some record =>
          have member : record ∈ impl.records.toList.map Prod.snd :=
            List.mem_map.mpr ⟨(port, record), OrderedMap.mem_toList.mpr found, rfl⟩
          have free := List.filter_eq_nil_iff.mp (List.isEmpty_iff.mp none) record member
          rw [Option.map_some, if_neg free]

@[simp] theorem releaseWhere_publishers :
    (impl.releaseWhere held reason detail).publishers = impl.publishers := rfl

@[simp] theorem releaseWhere_devices :
    (impl.releaseWhere held reason detail).devices = impl.devices := rfl

@[simp] theorem releaseWhere_epoch :
    (impl.releaseWhere held reason detail).epoch = impl.epoch := rfl

end Releasing

end EngineImpl

end PortFabric
