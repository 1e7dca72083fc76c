import PortFabric.Engine.Fixture
import PortFabric.Engine.GenerationProperties

/-!
# Generation reuse

A counter at its maximum no longer advances, and nothing asks whether it can
before a mutation changes the content the counter stands for.
-/

set_option autoImplicit false

namespace PortFabric

open PortFabricEngine

section Contents

variable {α : Type} {domain : GenerationDomain} (content : PortRecord → α)
  (counter : GenerationVector → Generation domain) (before after : PortRecord)

/-- A content that changes has a greater counter. -/
def Renewed : Prop :=
  content before ≠ content after → counter before.generations < counter after.generations

/-- The content changes although its counter can no longer advance. -/
def Exhausted : Prop :=
  content before ≠ content after ∧ (counter before.generations).exhaustible = true

end Contents

structure ContentsRenewed (before after : PortRecord) : Prop where
  lifecycle : Renewed PortRecord.lifecycle GenerationVector.lifecycle before after
  ownership : Renewed PortRecord.ownership GenerationVector.ownership before after
  administrative :
    Renewed PortRecord.administrative? GenerationVector.administrative before after
  configuration : Renewed PortRecord.settings GenerationVector.configuration before after

/-- A content changes that has no generation left. -/
def ContentsExhausted (before after : PortRecord) : Prop :=
  Exhausted PortRecord.lifecycle GenerationVector.lifecycle before after ∨
    Exhausted PortRecord.ownership GenerationVector.ownership before after ∨
    Exhausted PortRecord.administrative? GenerationVector.administrative before after ∨
    Exhausted PortRecord.settings GenerationVector.configuration before after

/--
A mutation reuses no generation: what it changes has a greater counter, and a
plan that changes a content without a generation left is not carried out.
-/
structure ReusesNoGeneration (runtime : Runtime) (mutation : Mutation) (answers : MutationAnswers)
    (impl : EngineImpl) : Prop where
  renewed : ∀ (port : PortId) (before after : PortRecord), impl.records[port]? = some before →
    (executeMutation runtime mutation answers impl).1.records[port]? = some after →
      ContentsRenewed before after
  refused : ∀ snapshot plan, Planned runtime mutation answers impl snapshot plan →
    ContentsExhausted snapshot plan.next →
      (executeMutation runtime mutation answers impl).1.records[mutation.port]? = some snapshot ∧
        (executeMutation runtime mutation answers impl).2.code? ≠ some .ok

/--
The proposal changes no content without a generation left, and does not change
the settings as an administrative mutation.
-/
structure Mutation.FindsRoom (mutation : Mutation) (before next : PortRecord) : Prop where
  room : ¬ContentsExhausted before next
  settings : mutation.kind = .administrative → before.settings = next.settings

/-- Every counter that the mutation has to advance can advance. -/
structure LeavesRoom (runtime : Runtime) (mutation : Mutation) (answers : MutationAnswers)
    (impl : EngineImpl) : Prop where
  committed : ∀ snapshot plan final, Commits runtime mutation answers impl snapshot plan final →
    mutation.FindsRoom snapshot plan.next
  doubted : ∀ snapshot plan generation detail,
    Doubts runtime mutation answers impl snapshot plan generation detail →
      let uncertain :=
        snapshot.uncertain runtime mutation.authority generation .outcomeUnknown detail
      uncertain = snapshot ∨
        ¬ContentsExhausted snapshot plan.next ∧ ¬ContentsExhausted snapshot uncertain

section Contents

variable {α : Type} {domain : GenerationDomain} {content : PortRecord → α}
  {counter : GenerationVector → Generation domain} {before after other : PortRecord}

theorem Counted.renewed_iff (counted : Counted content counter before after) :
    Renewed content counter before after ↔ ¬Exhausted content counter before after := by
  constructor
  · intro renewed given
    rcases given with ⟨changed, full⟩
    have room := (counted.lt_iff changed).mp (renewed changed)
    rw [full] at room
    cases room
  · intro room changed
    refine (counted.lt_iff changed).mpr ?_
    by_contra full
    exact room ⟨changed, by simpa using full⟩

theorem ContentsRenewed.refl (record : PortRecord) : ContentsRenewed record record :=
  ⟨(absurd rfl ·), (absurd rfl ·), (absurd rfl ·), (absurd rfl ·)⟩

theorem contentsRenewed_iff (counted : ContentsCounted before after)
    (settings : Counted PortRecord.settings GenerationVector.configuration before after) :
    ContentsRenewed before after ↔ ¬ContentsExhausted before after := by
  simp only [ContentsExhausted, not_or]
  constructor
  · intro renewed
    exact ⟨counted.lifecycle.renewed_iff.mp renewed.lifecycle,
      counted.ownership.renewed_iff.mp renewed.ownership,
      counted.administrative.renewed_iff.mp renewed.administrative,
      settings.renewed_iff.mp renewed.configuration⟩
  · intro given
    rcases given with ⟨lifecycle, ownership, administrative, configuration⟩
    exact ⟨counted.lifecycle.renewed_iff.mpr lifecycle,
      counted.ownership.renewed_iff.mpr ownership,
      counted.administrative.renewed_iff.mpr administrative,
      settings.renewed_iff.mpr configuration⟩

/-- An administrative mutation renews its contents when it leaves the settings alone. -/
theorem contentsRenewed_administrative_iff (counted : ContentsCounted before after)
    (kept : after.generations.configuration = before.generations.configuration) :
    ContentsRenewed before after ↔
      ¬ContentsExhausted before after ∧ before.settings = after.settings := by
  constructor
  · intro renewed
    have same : before.settings = after.settings := by
      by_contra changed
      have less := renewed.configuration changed
      exact Generation.ne_of_lt less kept.symm
    exact ⟨(contentsRenewed_iff counted (.kept kept same.symm)).mp renewed, same⟩
  · intro given
    rcases given with ⟨room, same⟩
    exact (contentsRenewed_iff counted (.kept kept same.symm)).mpr room

/-- The contents agree, counters included, whatever else differs. -/
theorem contentsExhausted_congr (lifecycle : other.lifecycle = after.lifecycle)
    (ownership : other.ownership = after.ownership)
    (configuration : other.configuration = after.configuration) :
    ContentsExhausted before other ↔ ContentsExhausted before after := by
  simp only [ContentsExhausted, Exhausted, PortRecord.administrative?, PortRecord.settings,
    lifecycle, ownership, configuration]

end Contents

section Mutations

variable {runtime : Runtime} {mutation : Mutation} {answers : MutationAnswers} {impl : EngineImpl}
  {snapshot final : PortRecord} {plan : MutationPlan}

theorem PortRecord.uncertain_renewed_iff (record : PortRecord) (authority : AuthorityContext)
    (generation : PortConfigurationGeneration) (detail : Text) :
    let uncertain := record.uncertain runtime authority generation .outcomeUnknown detail
    ContentsRenewed record uncertain ↔ ¬ContentsExhausted record uncertain := by
  have counted := record.uncertain_counted runtime authority generation detail
  refine contentsRenewed_iff counted (.kept (by simp) ?_)
  rw [settings, settings, uncertain_configuration]

/-- A commit renews what it changes exactly when the proposal finds room. -/
theorem Commits.renewed_iff
    (commits : Commits runtime mutation answers impl snapshot plan final) :
    ContentsRenewed snapshot final ↔ mutation.FindsRoom snapshot plan.next := by
  obtain ⟨counted, settings⟩ := commits.counted
  obtain ⟨_, _, _, _, decided, _, rfl⟩ := commits.stored
  obtain ⟨applied, drift, evidence, same, _⟩ := (applyPlan_commit decided).final
  rw [same] at counted settings ⊢
  have proposed : ContentsExhausted snapshot (plan.next.settledWith applied drift evidence) ↔
      ContentsExhausted snapshot plan.next := contentsExhausted_congr rfl rfl rfl
  unfold SettingsCounted at settings
  split at settings
  · next administrative =>
      rw [contentsRenewed_administrative_iff counted settings, proposed]
      exact ⟨fun room => ⟨room.1, fun _ => room.2⟩,
        fun room => ⟨room.room, room.settings administrative⟩⟩
  · next other =>
      rw [contentsRenewed_iff counted settings, proposed]
      exact ⟨fun room => ⟨room, fun administrative => absurd administrative other⟩,
        fun room => room.room⟩

/-- A planned mutation that commits nothing is not answered with success. -/
theorem Planned.unanswered (planned : Planned runtime mutation answers impl snapshot plan)
    (uncommitted : ∀ final, ¬Commits runtime mutation answers impl snapshot plan final) :
    (executeMutation runtime mutation answers impl).2.code? ≠ some .ok := by
  rw [planned.concluded]
  cases decided : applyPlan runtime snapshot plan answers with
  | reject reply => exact applyPlan_reject_code decided
  | commit proposal applied settled =>
      cases stored : (impl.authorised runtime mutation).commitRecord mutation.port proposal applied
          settled with
      | error result =>
          simp only [concludeMutation, EngineImpl.commit, stored, Reply.code?, ne_eq,
            Option.some.injEq]
          exact EngineImpl.commitRecord_error_code stored
      | ok committed =>
          exact absurd ⟨planned, _, _, _, _, decided, stored, rfl⟩ (uncommitted _)
  | uncertain generation detail code reply =>
      simp only [concludeMutation, EngineImpl.recordApplyUncertainty, Reply.code?, ne_eq,
        Option.some.injEq]
      rcases applyPlan_uncertain_code decided with code | code <;> simp [code]

end Mutations

/--
A mutation, from any engine, reuses no generation exactly when every counter it
has to advance can advance.
-/
theorem reuses_no_generation_iff (runtime : Runtime) (mutation : Mutation)
    (answers : MutationAnswers) (impl : EngineImpl) :
    ReusesNoGeneration runtime mutation answers impl ↔
      LeavesRoom runtime mutation answers impl := by
  constructor
  · intro reuses
    refine ⟨fun snapshot plan final commits => ?_, ?_⟩
    · have renewed := reuses.renewed _ _ _ commits.toPlanned.snapshot_found commits.stored_record
      exact commits.renewed_iff.mp renewed
    · intro snapshot plan generation detail doubts
      dsimp only
      by_cases same : snapshot.uncertain runtime mutation.authority generation .outcomeUnknown
          detail = snapshot
      · exact .inl same
      · refine .inr ⟨fun exhausted => ?_, ?_⟩
        · have kept := (reuses.refused _ _ doubts.toPlanned exhausted).1
          have stored := doubts.stored_record
          rw [EngineImpl.perform, kept] at stored
          exact same (Option.some.inj stored).symm
        · have renewed := reuses.renewed _ _ _ doubts.toPlanned.snapshot_found
            doubts.stored_record
          exact (snapshot.uncertain_renewed_iff _ _ _).mp renewed
  · intro room
    refine ⟨fun port before after found stored => ?_, ?_⟩
    · have effect := executeMutation_records runtime mutation answers impl
      generalize (executeMutation runtime mutation answers impl).1.records = records
        at effect stored
      cases effect with
      | unrecorded _ _ =>
          cases found.symm.trans stored
          exact .refl _
      | committed commits =>
          rw [OrderedMap.lookup_insert] at stored
          split at stored
          · next here =>
              subst here
              cases stored
              cases found.symm.trans commits.toPlanned.snapshot_found
              exact commits.renewed_iff.mpr (room.committed _ _ _ commits)
          · cases found.symm.trans stored
            exact .refl _
      | doubted doubts =>
          rw [OrderedMap.lookup_insert] at stored
          split at stored
          · next here =>
              subst here
              cases stored
              cases found.symm.trans doubts.toPlanned.snapshot_found
              obtain same | ⟨_, spared⟩ := room.doubted _ _ _ _ doubts
              · rw [same]
                exact .refl _
              · exact (before.uncertain_renewed_iff _ _ _).mpr spared
          · cases found.symm.trans stored
            exact .refl _
    · intro snapshot plan planned exhausted
      have uncommitted (final : PortRecord) :
          ¬Commits runtime mutation answers impl snapshot plan final := by
        intro commits
        exact (room.committed _ _ _ commits).room exhausted
      refine ⟨?_, planned.unanswered uncommitted⟩
      have effect := executeMutation_records runtime mutation answers impl
      generalize (executeMutation runtime mutation answers impl).1.records = records at effect ⊢
      cases effect with
      | unrecorded _ _ => exact planned.snapshot_found
      | committed commits =>
          obtain ⟨rfl, rfl⟩ := planned.unique commits.toPlanned
          exact absurd commits (uncommitted _)
      | doubted doubts =>
          obtain ⟨rfl, rfl⟩ := planned.unique doubts.toPlanned
          rw [OrderedMap.lookup_insert_self]
          obtain same | ⟨spared, _⟩ := room.doubted _ _ _ _ doubts
          · exact congrArg some same
          · exact absurd exhausted spared

namespace SpentOwnership

def runtime : Runtime where
  config := { Fixture.engineConfig "coordinator" "ports.pf" .first with persistence := .manual }

def port : PortId := "syn-sw1-p01"

/-- An unowned port whose ownership was granted and released to the last generation. -/
def record : PortRecord where
  port
  parentDevice := Fixture.device
  generations := { device := .first, lifecycle := .first, ownership := .last }

def container : PersistedState where
  epoch := .first
  engineGeneration := .first
  topology := .first
  records := [record]

def loaded : EngineImpl := (load runtime (.initial runtime.config) (.ok container)).1

def claim : Mutation :=
  Fixture.claim (Fixture.envelope port "agent-a" "boot-a" "claim-1" (.next .first)) "owner-a"

set_option maxRecDepth 100000 in
/-- The claim grants ownership under the generation that stood for none. -/
theorem ownership_generation_reused : ¬ReusesNoGeneration runtime claim {} loaded := by
  intro reuses
  have former : (loaded.records[port]?).map
      (fun record => (record.ownership.isSome, record.generations.ownership)) =
        some (false, .last) := by
    decide +kernel
  have latter : ((executeMutation runtime claim {} loaded).1.records[port]?).map
      (fun record => (record.ownership.isSome, record.generations.ownership)) =
        some (true, .last) := by
    decide +kernel
  obtain ⟨before, found, unowned⟩ := Option.map_eq_some_iff.mp former
  obtain ⟨after, stored, owned⟩ := Option.map_eq_some_iff.mp latter
  obtain ⟨absent, spent⟩ := Prod.mk.inj unowned
  obtain ⟨present, same⟩ := Prod.mk.inj owned
  have changed : before.ownership ≠ after.ownership := by
    intro kept
    rw [kept, present] at absent
    cases absent
  have less := (reuses.renewed port before after found stored).ownership changed
  rw [spent, same] at less
  exact Generation.ne_of_lt less rfl

end SpentOwnership

end PortFabric
