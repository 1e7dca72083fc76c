import PortFabric.Engine.Fixture
import PortFabric.Engine.RecoveryProperties

/-!
# Load atomicity

A load restores section after section into the running engine. A refusal in a
later section does not take back what the earlier ones replaced.
-/

set_option autoImplicit false

namespace PortFabric

open PortFabricEngine

namespace EngineImpl

/-- The profiles of the container, defined one after the other. -/
abbrev restoredProfiles (state : PersistedState) : ProfileRegistry × Option Outcome :=
  restoreProfiles ∅ (state.profiles.insertionSort profileBefore)

/-- Every section of the container can be restored. -/
structure Restorable (impl : EngineImpl) (state : PersistedState) : Prop where
  profiles : (restoredProfiles state).2 = none
  epoch : impl.epoch ≤ state.epoch → state.epoch.exhaustible = false
  records : ∀ record ∈ state.records, record.recovered.validate = .ok ()
  generation : state.engineGeneration.exhaustible = false

/-- The records of the container are those of the engine, with its indexes once all are restored. -/
structure RepeatsRecords (impl : EngineImpl) (state : PersistedState) : Prop where
  older : ¬impl.epoch ≤ state.epoch
  authority : impl.recoverAuthority state impl.epoch = impl
  records : (restoreRecords ∅ state.records).1 = impl.records
  indexes : (∀ record ∈ state.records, record.recovered.validate = .ok ()) →
    .reindexAll (impl.records.toList.map Prod.snd) = impl.indexes

/-- The sections before the refused one hold what the engine holds already. -/
structure Repeats (impl : EngineImpl) (state : PersistedState) : Prop where
  profiles : (restoredProfiles state).1 = impl.profiles
  reached : (restoredProfiles state).2 = none →
    (impl.epoch ≤ state.epoch ∧ state.epoch.exhaustible = true) ∨ impl.RepeatsRecords state

section Refusal

variable {impl : EngineImpl} {state : PersistedState}

theorem withProfiles_eq_iff {profiles : ProfileRegistry} :
    { impl with profiles } = impl ↔ profiles = impl.profiles := by
  cases impl
  simp only [mk.injEq, true_and, and_true]

theorem generation_exhaustible_valid {domain : GenerationDomain} {generation : Generation domain}
    (exhaustible : generation.exhaustible = true) : generation.valid = true := by
  simp only [Generation.exhaustible, decide_eq_true_eq] at exhaustible
  simp [Generation.valid_iff, exhaustible, maxU64]

/-- The records section restores everything or ends refused. -/
theorem recoverRecords_refused_iff {base : EngineImpl} :
    (base.recoverRecords state).2.accepted = false ↔
      ¬((∀ record ∈ state.records, record.recovered.validate = .ok ()) ∧
        state.engineGeneration.exhaustible = false) := by
  have complete : (restoreRecords ∅ state.records).2 = none ↔ _ := restoreRecords_complete_iff
  unfold recoverRecords
  split
  · next failure restored =>
      rw [restored] at complete
      have refused : failure.accepted = false :=
        restoreRecords_refused (congrArg Prod.snd restored)
      have incomplete := mt complete.mpr (Option.some_ne_none failure)
      simp only [refused, incomplete, false_and, not_false_eq_true]
  · next restored =>
      rw [restored] at complete
      have every := complete.mp rfl
      by_cases valid : state.engineGeneration.valid = true
      · simp only [valid, if_true]
        by_cases full : state.engineGeneration.exhaustible = true
        · simp only [full, if_true]
          exact iff_of_true rfl fun whole => by cases whole.2
        · rw [Bool.not_eq_true] at full
          simp only [full, Bool.false_eq_true, if_false]
          exact iff_of_false (by decide) (not_not_intro ⟨every, trivial⟩)
      · have room : state.engineGeneration.exhaustible = false := by
          by_contra full
          exact valid (generation_exhaustible_valid (by simpa using full))
        simp only [valid, Bool.false_eq_true, if_false]
        exact iff_of_false (by decide) (not_not_intro ⟨every, room⟩)

/-- A refused records section that starts from the records of the engine. -/
theorem recoverRecords_eq_iff {base : EngineImpl}
    (refused : (base.recoverRecords state).2.accepted = false)
    (records : base.records = impl.records) (indexes : base.indexes = impl.indexes) :
    (base.recoverRecords state).1 = impl ↔
      base = impl ∧ (restoreRecords ∅ state.records).1 = impl.records ∧
        ((∀ record ∈ state.records, record.recovered.validate = .ok ()) →
          .reindexAll (impl.records.toList.map Prod.snd) = impl.indexes) := by
  have complete : (restoreRecords ∅ state.records).2 = none ↔ _ := restoreRecords_complete_iff
  have replaced (restored : RecordMap) (reindexed : PortIndexes) :
      { base with records := restored, indexes := reindexed } = impl ↔
        base = impl ∧ restored = impl.records ∧ reindexed = impl.indexes := by
    cases base
    cases impl
    simp only [mk.injEq] at records indexes ⊢
    tauto
  unfold recoverRecords at refused ⊢
  split at refused
  · next restored _ stopped =>
      rw [stopped] at complete
      simp only [stopped]
      have incomplete := mt complete.mpr (Option.some_ne_none _)
      rw [replaced restored base.indexes]
      simp only [indexes, incomplete, false_implies, and_true]
  · next restored finished =>
      rw [finished] at complete
      simp only [finished]
      have every := complete.mp rfl
      split at refused
      · next valid =>
          split at refused
          · next full =>
              simp only [valid, full, if_true]
              rw [replaced]
              constructor
              · intro given
                rcases given with ⟨same, rfl, reindexed⟩
                exact ⟨same, rfl, fun _ => reindexed⟩
              · intro given
                rcases given with ⟨same, rfl, reindexed⟩
                exact ⟨same, rfl, reindexed every⟩
          · cases refused
      · cases refused

theorem recoverAuthority_withProfiles {profiles : ProfileRegistry} {epoch : CoordinatorEpoch} :
    ({ impl with profiles } : EngineImpl).recoverAuthority state epoch = impl ↔
      profiles = impl.profiles ∧ impl.recoverAuthority state epoch = impl := by
  cases impl
  simp only [recoverAuthority, mk.injEq, true_and, and_true]

/-- A refused records section of a container with an older epoch. -/
theorem recoverRecords_older_iff {profiles : ProfileRegistry} (older : ¬impl.epoch ≤ state.epoch)
    (refused : ((({ impl with profiles } : EngineImpl).recoverAuthority state
      impl.epoch).recoverRecords state).2.accepted = false) :
    ((({ impl with profiles } : EngineImpl).recoverAuthority state
        impl.epoch).recoverRecords state).1 = impl ↔
      profiles = impl.profiles ∧ impl.RepeatsRecords state := by
  have replaced : _ ↔ ({ impl with profiles } : EngineImpl).recoverAuthority state _ = impl ∧ _ :=
    recoverRecords_eq_iff refused rfl rfl
  rw [replaced, recoverAuthority_withProfiles]
  constructor
  · intro given
    rcases given with ⟨⟨same, authority⟩, records, indexes⟩
    exact ⟨same, older, authority, records, indexes⟩
  · intro given
    rcases given with ⟨same, repeated⟩
    exact ⟨⟨same, repeated.authority⟩, repeated.records, repeated.indexes⟩

theorem recoverRecords_ne {base : EngineImpl} (moved : base.epoch ≠ impl.epoch) :
    (base.recoverRecords state).1 ≠ impl := by
  obtain ⟨_, _, same⟩ := recoverRecords_frame base state
  rw [same]
  intro same
  subst same
  exact moved rfl

/-- A container under an epoch of its own moves the epoch, unless all of it is restored. -/
private theorem recover_covered_iff {profiles : ProfileRegistry}
    (whole : (restoredProfiles state).2 = none) (covered : impl.epoch ≤ state.epoch)
    (room : state.epoch.exhaustible = false) :
    (((({ impl with profiles } : EngineImpl).recoverAuthority state
          state.epoch.next).recoverRecords state).2.accepted = false →
        ((({ impl with profiles } : EngineImpl).recoverAuthority state
          state.epoch.next).recoverRecords state).1 = impl) ↔
      impl.Restorable state ∨ impl.Repeats state := by
  have moved : state.epoch.next ≠ impl.epoch :=
    (Generation.ne_of_lt (Generation.lt_of_le_of_lt covered (Generation.lt_next room))).symm
  constructor
  · intro kept
    have accepted := mt kept (recoverRecords_ne moved)
    rw [recoverRecords_refused_iff, not_not] at accepted
    exact .inl ⟨whole, fun _ => room, accepted.1, accepted.2⟩
  · intro given refused
    rcases given with restorable | repeats
    · exact absurd ⟨restorable.records, restorable.generation⟩
        (recoverRecords_refused_iff.mp refused)
    · obtain ⟨_, exhausted⟩ | repeated := repeats.reached whole
      · simp [room] at exhausted
      · exact absurd covered repeated.older

private theorem recover_older_iff {profiles : ProfileRegistry}
    (first : (restoredProfiles state).1 = profiles) (whole : (restoredProfiles state).2 = none)
    (older : ¬impl.epoch ≤ state.epoch) :
    (((({ impl with profiles } : EngineImpl).recoverAuthority state
          impl.epoch).recoverRecords state).2.accepted = false →
        ((({ impl with profiles } : EngineImpl).recoverAuthority state
          impl.epoch).recoverRecords state).1 = impl) ↔
      impl.Restorable state ∨ impl.Repeats state := by
  constructor
  · intro kept
    by_cases refused : ((({ impl with profiles } : EngineImpl).recoverAuthority state
        impl.epoch).recoverRecords state).2.accepted = false
    · obtain ⟨same, repeated⟩ := (recoverRecords_older_iff older refused).mp (kept refused)
      exact .inr ⟨first.trans same, fun _ => .inr repeated⟩
    · rw [recoverRecords_refused_iff, not_not] at refused
      exact .inl ⟨whole, fun covered => absurd covered older, refused.1, refused.2⟩
  · intro given refused
    rcases given with restorable | repeats
    · exact absurd ⟨restorable.records, restorable.generation⟩
        (recoverRecords_refused_iff.mp refused)
    · obtain ⟨covered, _⟩ | repeated := repeats.reached whole
      · exact absurd covered older
      · exact (recoverRecords_older_iff older refused).mpr
          ⟨first.symm.trans repeats.profiles, repeated⟩

theorem load_belonging {runtime : Runtime}
    (path : runtime.config.persistencePath.isEmpty = false)
    (belongs : acceptContainer runtime.config state = .ok ()) :
    ((load runtime impl (.ok state)).2.accepted = false →
        (load runtime impl (.ok state)).1 = impl) ↔
      impl.Restorable state ∨ impl.Repeats state := by
  unfold load
  simp only [path, Bool.false_eq_true, if_false, belongs]
  split
  · next profiles failure stopped =>
      -- The profiles restored so far have already replaced those of the engine.
      have refused : failure.accepted = false :=
        restoreProfiles_refused (congrArg Prod.snd stopped)
      have incomplete : (restoredProfiles state).2 ≠ none := by
        rw [restoredProfiles, stopped]
        exact Option.some_ne_none _
      simp only [refused, true_implies, withProfiles_eq_iff]
      constructor
      · intro same
        refine .inr ⟨?_, fun whole => absurd whole incomplete⟩
        rw [restoredProfiles, stopped]
        exact same
      · intro given
        rcases given with restorable | repeats
        · exact absurd restorable.profiles incomplete
        · have same := repeats.profiles
          rw [restoredProfiles, stopped] at same
          exact same
  · next profiles finished =>
      have whole : (restoredProfiles state).2 = none := by rw [restoredProfiles, finished]
      have first : (restoredProfiles state).1 = profiles := by rw [restoredProfiles, finished]
      by_cases covered : impl.epoch ≤ state.epoch
      · by_cases full : state.epoch.exhaustible = true
        · simp only [covered, full, if_true]
          have refused : (Outcome.failure .resourceBoundExceeded
            "the persisted coordinator epoch can no longer advance").accepted = false := rfl
          simp only [refused, true_implies, withProfiles_eq_iff]
          constructor
          · exact fun same => .inr ⟨first.trans same, fun _ => .inl ⟨covered, full⟩⟩
          · intro given
            rcases given with restorable | repeats
            · simp [restorable.epoch covered] at full
            · exact first.symm.trans repeats.profiles
        · simp only [covered, full, if_true, Bool.false_eq_true, if_false]
          rw [Bool.not_eq_true] at full
          exact recover_covered_iff whole covered full
      · simp only [covered, if_false]
        exact recover_older_iff first whole covered

end Refusal

end EngineImpl

/--
A refused load leaves the engine as it was exactly when the container can be
restored to its end, or what was restored before the refusal is what the engine held.
-/
theorem refused_load_unchanged_iff (runtime : Runtime) (impl : EngineImpl)
    (container : Except Outcome PersistedState) :
    ((load runtime impl container).2.accepted = false → (load runtime impl container).1 = impl) ↔
      ∀ state, container = .ok state → runtime.config.persistencePath.isEmpty = false →
        EngineImpl.acceptContainer runtime.config state = .ok () →
        impl.Restorable state ∨ impl.Repeats state := by
  constructor
  · intro kept state same path belongs
    subst same
    exact (EngineImpl.load_belonging path belongs).mp kept
  · intro condition
    by_cases pathless : runtime.config.persistencePath.isEmpty = true
    · simp [load, pathless]
    rw [Bool.not_eq_true] at pathless
    cases container with
    | error outcome => simp [load, pathless]
    | ok state =>
        cases belongs : EngineImpl.acceptContainer runtime.config state with
        | error outcome => simp [load, pathless, belongs]
        | ok =>
            exact (EngineImpl.load_belonging pathless belongs).mpr
              (condition state rfl pathless belongs)

namespace ExhaustedContainer

def runtime : Runtime where
  config := Fixture.engineConfig "coordinator" "ports.pf" .first

def profile : PortProfile where
  id := "leaf-uplink"
  generation := .first
  name := "leaf-uplink"
  provenance := { kind := .operator, epoch := .first }

/-- The container was written under the last epoch there is. -/
def container : PersistedState where
  epoch := .ofNat maxU64
  engineGeneration := .first
  topology := .first

set_option maxRecDepth 100000 in
/-- The refused load has emptied the profile registry. -/
theorem refused_profiles_emptied :
    ¬((load runtime (.after runtime [.defineProfile profile]) (.ok container)).2.accepted = false →
      (load runtime (.after runtime [.defineProfile profile]) (.ok container)).1 =
        .after runtime [.defineProfile profile]) := by
  intro kept
  have refused : (load runtime (.after runtime [.defineProfile profile])
      (.ok container)).2.accepted = false := by
    decide +kernel
  have emptied : (load runtime (.after runtime [.defineProfile profile])
      (.ok container)).1.profiles.size ≠
        (EngineImpl.after runtime [.defineProfile profile]).profiles.size := by
    decide +kernel
  exact emptied (congrArg (fun impl => impl.profiles.size) (kept refused))

end ExhaustedContainer

end PortFabric
