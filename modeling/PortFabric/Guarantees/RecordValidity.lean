import PortFabric.Engine.Fixture
import PortFabric.Engine.WellFormedness

/-!
# Record validity

Every writer of a record keeps it valid, except the record of an uncertain
apply, which is stored without validation.
-/

set_option autoImplicit false

namespace PortFabric

open Checks

/-- Every record the engine holds validates. -/
def EngineImpl.RecordsValid (impl : EngineImpl) : Prop :=
  OrderedMap.Every (fun _ record => record.validate = .ok ()) impl.records

/-- The encoder does not refuse the state of the engine because of a record. -/
def EngineImpl.RecordsEncodable (config : EngineConfig) (impl : EngineImpl) : Prop :=
  ∀ error, encodePersistedState (impl.gatherState config) ≠
    .error (.failure .invalidConfiguration (text "a record is inconsistent: " ++ error))

section Writers

variable {record : PortRecord}

section Uncertainty

variable {runtime : Runtime} {authority : AuthorityContext}
  {generation : PortConfigurationGeneration} {detail : Text}

private theorem uncertain_consistent_iff (consistent : record.validateConfiguration = .ok ()) :
    (record.uncertain runtime authority generation .outcomeUnknown detail).validateConfiguration =
        .ok () ↔
      record.configuration.isSome = true ∨ record.lifecycle = .retired ∨
        record.lifecycle = .superseded := by
  cases bound : record.configuration with
  | some committed =>
      rw [PortRecord.validateConfiguration_some bound (by simp) (by simp) (by simp) (by simp)]
      simp [consistent]
  | none =>
      rw [PortRecord.validateConfiguration_none (by simp [bound]), PortRecord.uncertain_lifecycle]
      split
      · next alive => simp [alive.1, alive.2]
      · next kept =>
          have fenced : record.lifecycle = .retired ∨ record.lifecycle = .superseded := by
            by_contra alive
            exact kept (not_or.mp alive)
          simp [fenced]

/-- An uncertain apply keeps a record valid when it is configured or fenced, and described. -/
theorem PortRecord.uncertain_validate_iff (valid : record.validate = .ok ()) :
    (record.uncertain runtime authority generation .outcomeUnknown detail).validate = .ok () ↔
      (record.configuration.isSome = true ∨ record.lifecycle = .retired ∨
        record.lifecycle = .superseded) ∧
      validateText detail maxDescriptionLength = .ok () := by
  have reason : validateText (text "APPLY_OUTCOME_UNKNOWN") maxNameLength = .ok () := by decide
  simp only [validate, within_eq_ok, require_eq_ok, and_true] at valid
  obtain ⟨port, device, _, _, _, capability, ownership, configuration, _, _⟩ := valid
  rw [← uncertain_consistent_iff configuration]
  obtain ⟨_, _, applied, _, same, unknown, _⟩ :=
    record.uncertain_eq runtime authority generation detail
  have legal : applied.outcome.isValid = true := by rw [unknown]; rfl
  rw [same]
  simp only [validate, within_eq_ok, require_eq_ok, and_true]
  constructor
  · intro given
    rcases given with ⟨_, _, _, _, _, _, _, consistent, _, described⟩
    exact ⟨consistent, described⟩
  · intro given
    rcases given with ⟨consistent, described⟩
    exact ⟨port, device, rfl, rfl, legal, capability, ownership, consistent, reason, described⟩

end Uncertainty

end Writers

section Steps

variable {runtime : Runtime} {impl : EngineImpl}

theorem RecordsEffect.valid {operation : Operation} {before after : RecordMap}
    (effect : RecordsEffect operation before after)
    (every : OrderedMap.Every (fun _ record => record.validate = .ok ()) before) :
    OrderedMap.Every (fun _ record => record.validate = .ok ()) after := by
  cases effect with
  | unchanged => exact every
  | bound requested absent named validated => exact every.insert validated
  | released held texts =>
      refine every.map fun port record valid => ?_
      split
      · exact PortRecord.released_validate valid texts
      · exact valid

/-- The detail of an uncertain apply is a fixed text or the one the adapter answered. -/
theorem applyPlan_detail_iff {snapshot : PortRecord} {plan : MutationPlan}
    {answers : MutationAnswers} {generation : PortConfigurationGeneration} {detail : Text}
    {code : OutcomeCode} {reply : Option MutationResult}
    (decided : applyPlan runtime snapshot plan answers = .uncertain generation detail code reply) :
    validateText detail maxDescriptionLength = .ok () ↔
      (answers.apply.status = .outcomeUnknown →
        validateText answers.apply.detail maxDescriptionLength = .ok ()) := by
  unfold applyPlan at decided
  split at decided
  · cases decided
  · split at decided
    · cases decided
    · split at decided
      · cases decided
      · split at decided
        · next applied =>
            split at decided
            · unfold verifyApplied at decided
              split at decided
              · cases decided
              · cases decided
                exact iff_of_true (by decide) (by simp [applied])
              · cases decided
                exact iff_of_true (by decide) (by simp [applied])
              · cases decided
            · cases decided
        · cases decided
        · cases decided
        · next unknown =>
            cases decided
            simp only [unknown, true_implies]
            split
            · next silent =>
                rw [List.isEmpty_iff.mp silent]
                exact iff_of_true (by decide) (by decide)
            · exact Iff.rfl

/--
A mutation whose apply stays uncertain concerns a port with a committed
configuration, and what its adapter says about it is a status text.
-/
def DescribesUncertainty (runtime : Runtime) (impl : EngineImpl) : Operation → Prop
  | .mutate mutation answers =>
      ∀ snapshot plan generation detail,
        Doubts runtime mutation answers impl snapshot plan generation detail →
          snapshot.configuration.isSome = true ∧
            (answers.apply.status = .outcomeUnknown →
              validateText answers.apply.detail maxDescriptionLength = .ok ())
  | _ => True

theorem Doubts.validate_iff {mutation : Mutation} {answers : MutationAnswers}
    {snapshot : PortRecord} {plan : MutationPlan} {generation : PortConfigurationGeneration}
    {detail : Text} (doubts : Doubts runtime mutation answers impl snapshot plan generation detail)
    (valid : snapshot.validate = .ok ()) :
    (snapshot.uncertain runtime mutation.authority generation .outcomeUnknown detail).validate =
        .ok () ↔
      snapshot.configuration.isSome = true ∧
        (answers.apply.status = .outcomeUnknown →
          validateText answers.apply.detail maxDescriptionLength = .ok ()) := by
  obtain ⟨_, _, decided⟩ := doubts.doubted
  rw [PortRecord.uncertain_validate_iff valid, applyPlan_detail_iff decided]
  have settled : (snapshot.configuration.isSome = true ∨ snapshot.lifecycle = .retired ∨
      snapshot.lifecycle = .superseded) ↔ snapshot.configuration.isSome = true := by
    rcases doubts.configured with unconfigured | configured
    · simp [unconfigured]
    · simp [configured]
  rw [settled]

theorem EngineImpl.mutate_valid_iff (valid : impl.RecordsValid) (mutation : Mutation)
    (answers : MutationAnswers) :
    (executeMutation runtime mutation answers impl).1.RecordsValid ↔
      DescribesUncertainty runtime impl (.mutate mutation answers) := by
  unfold EngineImpl.RecordsValid at valid ⊢
  have effect := executeMutation_records runtime mutation answers impl
  generalize (executeMutation runtime mutation answers impl).1.records = after at effect ⊢
  cases effect with
  | unrecorded _ undoubted =>
      exact iff_of_true valid
        (fun _ _ _ _ doubts => absurd doubts (undoubted _ _ _ _))
  | committed commits =>
      exact iff_of_true (valid.insert commits.final_validate)
        (fun _ _ _ _ doubts => (commits.not_doubts doubts).elim)
  | @doubted snapshot plan generation detail doubts =>
      have before : snapshot.validate = .ok () := valid _ _ doubts.toPlanned.snapshot_found
      constructor
      · intro after _ _ _ _ again
        obtain ⟨rfl, rfl, rfl, rfl⟩ := doubts.unique again
        exact (doubts.validate_iff before).mp (after _ _ (OrderedMap.lookup_insert_self ..))
      · intro described
        exact valid.insert ((doubts.validate_iff before).mpr (described _ _ _ _ doubts))

/-- One operation keeps the records valid exactly when it describes its uncertainty. -/
theorem EngineImpl.perform_valid_iff (valid : impl.RecordsValid) (operation : Operation) :
    (impl.perform runtime operation).RecordsValid ↔
      DescribesUncertainty runtime impl operation := by
  cases operation with
  | mutate mutation answers => exact impl.mutate_valid_iff valid mutation answers
  | load container =>
      refine iff_of_true ?_ trivial
      rcases load_records runtime impl container with same | recovered
      · unfold EngineImpl.RecordsValid at valid ⊢
        rw [EngineImpl.perform, same]
        exact valid
      · exact recovered.imp fun _ _ record => record.2
  | bindPort | defineProfile | beginEpoch | registerPublisher | fencePublisher | registerDevice
  | setTopologyGeneration | save | shutdown =>
      exact iff_of_true ((perform_records (by simp) rfl).valid valid) trivial

end Steps

section Encoding

private theorem writeValidated_all {α : Type} {validate : α → Except Text Unit}
    {code : OutcomeCode} {prefixText : Text} {write : ByteWriter → α → ByteWriter}
    {writer : ByteWriter} {values : List α} (valid : ∀ value ∈ values, validate value = .ok ()) :
    ∃ written, writeValidated validate code prefixText write writer values = .ok written := by
  induction values generalizing writer with
  | nil => exact ⟨writer, rfl⟩
  | cons value rest ih =>
      simp only [List.mem_cons, forall_eq_or_imp] at valid
      simp only [writeValidated, valid.1]
      exact ih valid.2

private theorem writeValidated_error {α : Type} {validate : α → Except Text Unit}
    {code : OutcomeCode} {prefixText : Text} {write : ByteWriter → α → ByteWriter}
    {writer : ByteWriter} {values : List α} {outcome : Outcome}
    (refused : writeValidated validate code prefixText write writer values = .error outcome) :
    outcome.code = code := by
  induction values generalizing writer with
  | nil => cases refused
  | cons value rest ih =>
      unfold writeValidated at refused
      split at refused
      · cases refused
        rfl
      · exact ih refused

theorem encodePersistedState_of_valid {state : PersistedState}
    (valid : ∀ record ∈ state.records, record.validate = .ok ()) (message : Text) :
    encodePersistedState state ≠ .error (.failure .invalidConfiguration message) := by
  intro refused
  unfold encodePersistedState at refused
  split at refused
  · next outcome failed =>
      cases refused
      unfold encodePayload at failed
      dsimp only at failed
      split at failed
      · cases failed
      · obtain ⟨written, stored⟩ := writeValidated_all valid
        rw [stored] at failed
        dsimp only at failed
        split at failed
        · cases failed
        · split at failed
          · next profile =>
              have code := writeValidated_error profile
              cases failed
              cases code
          · split at failed
            · cases failed
            · split at failed
              · cases failed
              · split at failed <;> cases failed
  · dsimp only at refused
    split at refused
    · cases refused
    · split at refused <;> cases refused

theorem EngineImpl.RecordsValid.encodable {impl : EngineImpl} (valid : impl.RecordsValid)
    (config : EngineConfig) : impl.RecordsEncodable config := by
  intro error
  apply encodePersistedState_of_valid
  intro record held
  obtain ⟨⟨port, stored⟩, found, rfl⟩ := List.mem_map.mp held
  exact valid port stored (OrderedMap.mem_toList.mp found)

end Encoding

/--
Along a run on a fresh engine, every record stays valid and the state stays
encodable exactly when every uncertain apply is described.
-/
theorem records_valid_throughout_iff (runtime : Runtime) (operations : List Operation) :
    Runs.Throughout (EngineImpl.perform runtime)
        (fun impl => impl.RecordsValid ∧ impl.RecordsEncodable runtime.config)
        (.initial runtime.config) operations ↔
      Runs.Along (EngineImpl.perform runtime) (DescribesUncertainty runtime)
        (.initial runtime.config) operations := by
  have initially : (EngineImpl.initial runtime.config).RecordsValid := OrderedMap.Every.empty
  rw [← Runs.throughout_iff_along_of_step
    (fun impl operation valid => impl.perform_valid_iff valid operation) initially]
  exact ⟨fun throughout => throughout.imp fun _ both => both.1,
    fun throughout => throughout.imp fun _ valid => ⟨valid, valid.encodable _⟩⟩

namespace UncertainConfiguration

def port : PortId := "syn-sw1-p01"

/-- The first configuration of a port, to which the adapter gives no certain answer. -/
def operations : List Operation :=
  [ Fixture.bind port "bind-1",
    .mutate
      (Fixture.configuration (Fixture.envelope port "agent-a" "boot-a" "configure-1" .first))
      Fixture.uncertain ]

set_option maxRecDepth 100000 in
/-- The stored record is live and has no configuration, and every later save is refused. -/
theorem records_invalid :
    ¬(EngineImpl.after Fixture.runtime operations).RecordsValid ∧
      ¬(EngineImpl.after Fixture.runtime operations).RecordsEncodable Fixture.runtime.config := by
  have stored : ((EngineImpl.after Fixture.runtime operations).records[port]?).map
      (fun record => decide (record.validate = .ok ())) = some false := by
    decide +kernel
  have refused : encodePersistedState
      ((EngineImpl.after Fixture.runtime operations).gatherState Fixture.runtime.config) =
        .error (.failure .invalidConfiguration (text "a record is inconsistent: " ++
          text "a live lifecycle state requires a committed configuration")) := by
    decide +kernel
  obtain ⟨record, found, invalid⟩ := Option.map_eq_some_iff.mp stored
  refine ⟨fun valid => ?_, fun encodable => encodable _ refused⟩
  exact of_decide_eq_false invalid (valid port record found)

end UncertainConfiguration

end PortFabric
