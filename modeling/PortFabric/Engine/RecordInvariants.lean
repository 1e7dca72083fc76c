import PortFabric.Engine.Proposals
import PortFabric.Engine.RecoveryProperties

/-!
# Record invariants

A property of single records that a binding establishes and that releases and
uncertain applies keep is broken by commits and recoveries only.
-/

set_option autoImplicit false

namespace PortFabric

open PortFabricEngine

/-- What a property of stored records needs from the writers outside commit and recovery. -/
structure RecordInvariant (holds : PortId → PortRecord → Prop) : Prop where
  bound : ∀ (request : PortBindingRequest) (evidence : Option CapabilityBinding),
    holds request.port (boundRecord request evidence)
  released : ∀ (port : PortId) (record : PortRecord) (reason detail : Text),
    holds port record → holds port (record.released reason detail)
  uncertain : ∀ (port : PortId) (record : PortRecord) (runtime : Runtime)
    (authority : AuthorityContext) (generation : PortConfigurationGeneration) (detail : Text),
    holds port record →
      holds port (record.uncertain runtime authority generation .outcomeUnknown detail)

/-- Every record the operation commits or recovers has the property. -/
def Establishes (holds : PortId → PortRecord → Prop) (runtime : Runtime) (impl : EngineImpl) :
    Operation → Prop
  | .mutate mutation answers =>
      ∀ snapshot plan final, Commits runtime mutation answers impl snapshot plan final →
        holds mutation.port final
  | .load container =>
      ∀ state, Recovers runtime impl container state →
        OrderedMap.Every holds (restoreRecords ∅ state.records).1
  | _ => True

section Invariants

variable {holds : PortId → PortRecord → Prop} {runtime : Runtime} {impl : EngineImpl}

theorem RecordsEffect.every (invariant : RecordInvariant holds) {operation : Operation}
    {before after : RecordMap} (effect : RecordsEffect operation before after)
    (every : OrderedMap.Every holds before) : OrderedMap.Every holds after := by
  cases effect with
  | unchanged => exact every
  | bound requested absent named validated => exact every.insert (invariant.bound _ _)
  | released held texts =>
      refine every.map fun port record kept => ?_
      split
      · exact invariant.released port record _ _ kept
      · exact kept

theorem mutate_every_iff (invariant : RecordInvariant holds)
    (every : OrderedMap.Every holds impl.records) (mutation : Mutation)
    (answers : MutationAnswers) :
    OrderedMap.Every holds (executeMutation runtime mutation answers impl).1.records ↔
      Establishes holds runtime impl (.mutate mutation answers) := by
  have effect := executeMutation_records runtime mutation answers impl
  generalize (executeMutation runtime mutation answers impl).1.records = after at effect ⊢
  cases effect with
  | unrecorded uncommitted _ =>
      exact iff_of_true every fun _ _ _ commits => absurd commits (uncommitted _ _ _)
  | @committed snapshot final plan commits =>
      constructor
      · intro after _ _ _ again
        obtain ⟨rfl, rfl, rfl⟩ := commits.unique again
        exact after _ _ (OrderedMap.lookup_insert_self ..)
      · intro established
        exact every.insert (established _ _ _ commits)
  | doubted doubts =>
      refine iff_of_true (every.insert ?_) fun _ _ _ commits => (commits.not_doubts doubts).elim
      exact invariant.uncertain _ _ _ _ _ _ (every _ _ doubts.toPlanned.snapshot_found)

/-- The property survives an operation exactly when what it commits or recovers has it. -/
theorem perform_every_iff (invariant : RecordInvariant holds)
    (every : OrderedMap.Every holds impl.records) (operation : Operation) :
    OrderedMap.Every holds (impl.perform runtime operation).records ↔
      Establishes holds runtime impl operation := by
  cases operation with
  | mutate mutation answers => exact mutate_every_iff invariant every mutation answers
  | load container =>
      obtain ⟨unread, _, same⟩ | ⟨state, recovers, loaded⟩ := load_effect runtime impl container
      · rw [EngineImpl.perform, same]
        exact iff_of_true every fun state recovers => absurd recovers (unread state)
      · rw [EngineImpl.perform, loaded.records]
        constructor
        · intro after other again
          obtain rfl : state = other := Except.ok.inj (recovers.read.symm.trans again.read)
          exact after
        · exact fun established => established state recovers
  | bindPort | defineProfile | beginEpoch | registerPublisher | fencePublisher | registerDevice
  | setTopologyGeneration | save | shutdown =>
      exact iff_of_true ((perform_records (by simp) rfl).every invariant every) trivial

/-- The property holds throughout exactly when every operation meets an exact condition for it. -/
theorem every_throughout_iff_along (invariant : RecordInvariant holds)
    {condition : EngineImpl → Operation → Prop}
    (exactly : ∀ impl operation, OrderedMap.Every holds impl.records →
      (Establishes holds runtime impl operation ↔ condition impl operation))
    (operations : List Operation) :
    Runs.Throughout (EngineImpl.perform runtime)
        (fun impl => OrderedMap.Every holds impl.records) (.initial runtime.config) operations ↔
      Runs.Along (EngineImpl.perform runtime) condition (.initial runtime.config) operations := by
  have kept (impl : EngineImpl) (operation : Operation)
      (every : OrderedMap.Every holds impl.records) :
      OrderedMap.Every holds (impl.perform runtime operation).records ↔
        condition impl operation :=
    (perform_every_iff invariant every operation).trans (exactly impl operation every)
  exact Runs.throughout_iff_along_of_step kept OrderedMap.Every.empty

/-- A property that every operation establishes holds in every reachable state. -/
theorem after_every (invariant : RecordInvariant holds)
    (established : ∀ impl operation, OrderedMap.Every holds impl.records →
      Establishes holds runtime impl operation) (operations : List Operation) :
    OrderedMap.Every holds (EngineImpl.after runtime operations).records :=
  Runs.invariant
    (fun impl operation every =>
      (perform_every_iff invariant every operation).mpr (established impl operation every))
    OrderedMap.Every.empty operations

end Invariants

section Liveness

variable {holds : PortRecord → Prop}

theorem PortRecord.uncertain_not_live (record : PortRecord) (runtime : Runtime)
    (authority : AuthorityContext) (generation : PortConfigurationGeneration) (detail : Text) :
    (record.uncertain runtime authority generation .outcomeUnknown detail).lifecycle.isLive =
      false := by
  rw [PortRecord.uncertain_lifecycle]
  split
  · rfl
  · next fenced =>
      by_cases retired : record.lifecycle = .retired
      · rw [retired]
        rfl
      · have superseded : record.lifecycle = .superseded := by
          by_contra alive
          exact fenced ⟨retired, alive⟩
        rw [superseded]
        rfl

/-- A recovered record that validates is not live. -/
theorem Recovered.not_live {record : PortRecord} (recovered : Recovered record) :
    record.lifecycle.isLive = false := by
  obtain ⟨⟨persisted, rfl⟩, valid⟩ := recovered
  cases configuration : persisted.configuration with
  | some committed => exact persisted.recovered_idle (by rw [configuration]; rfl)
  | none =>
      simp only [PortRecord.validate, Checks.within_eq_ok, Checks.require_eq_ok] at valid
      obtain ⟨_, _, _, _, _, _, _, consistent, _⟩ := valid
      simp only [PortRecord.validateConfiguration, PortRecord.recovered_configuration,
        configuration, Checks.require_eq_ok, Bool.or_eq_true, decide_eq_true_eq,
        and_true] at consistent
      obtain (same | same) | same := consistent
      · rw [same]
        rfl
      · rw [same]
        rfl
      · rw [same]
        rfl

/-- A property that is claimed of live records only. -/
def PortRecord.WhileLive (holds : PortRecord → Prop) (record : PortRecord) : Prop :=
  record.lifecycle.isLive = true → holds record

theorem PortRecord.WhileLive.of_not_live {record : PortRecord}
    (fenced : record.lifecycle.isLive = false) : record.WhileLive holds := by
  intro live
  rw [fenced] at live
  cases live

/-- Only commits make records live, so a property of live records is theirs to keep. -/
theorem whileLive_invariant
    (released : ∀ (record : PortRecord) (reason detail : Text), holds record →
      holds (record.released reason detail)) :
    RecordInvariant fun _ record => record.WhileLive holds where
  bound := fun _ _ => .of_not_live rfl
  released := fun _ record reason detail kept live => released record reason detail (kept live)
  uncertain := fun _ record runtime authority generation detail _ =>
    .of_not_live (record.uncertain_not_live runtime authority generation detail)

theorem restored_whileLive (persisted : List PortRecord) :
    OrderedMap.Every (fun _ record => record.WhileLive holds) (restoreRecords ∅ persisted).1 :=
  (restoreRecords_recovered OrderedMap.Every.empty).imp fun _ _ recovered =>
    .of_not_live recovered.not_live

end Liveness

section Identity

variable {runtime : Runtime} {impl : EngineImpl}

theorem Proposal.port {mutation : Mutation} {input : MutationBuildInput} {plan : MutationPlan}
    (proposed : Proposal mutation input plan) : plan.next.port = input.current.port := by
  cases proposed with
  | configured _ _ _ _ planned => rw [planned]; rfl
  | replaced _ _ _ _ _ planned => rw [planned]; rfl
  | administered _ _ _ _ _ next => rw [next]; rfl
  | @rebound request _ _ next =>
      obtain ⟨_, _, _, _, _, same, _⟩ :=
        (input.current.withEvidence request.binding).reexamined_eq request.binding
      rw [next, same]
      rfl
  | reconciled _ _ _ _ planned => rw [planned]; rfl
  | @fenced lifecycle reason detail retire _ _ _ _ next =>
      obtain ⟨_, _, same⟩ := (input.current.fenced lifecycle reason detail).disowned_eq retire
      rw [next]
      dsimp only
      rw [same]
      rfl
  | reowned _ _ next => rw [next]; rfl
  | @evidenced request _ _ _ _ next =>
      obtain ⟨_, _, _, _, _, _, _, same, _⟩ := input.current.evidenced_eq request.evidence
      rw [next, same]
  | @observed request _ _ next =>
      obtain ⟨_, _, _, _, _, same, _⟩ := input.current.drifted_eq request.observed request.detail
      rw [next, same]

theorem keyed_invariant : RecordInvariant fun port record => record.port = port where
  bound := fun _ _ => rfl
  released := fun _ _ _ _ kept => kept
  uncertain := by
    intro port record runtime authority generation detail kept
    rw [PortRecord.uncertain_port]
    exact kept

theorem keyed_established (impl : EngineImpl) (operation : Operation)
    (every : OrderedMap.Every (fun port (record : PortRecord) => record.port = port)
      impl.records) :
    Establishes (fun port record => record.port = port) runtime impl operation := by
  cases operation with
  | mutate mutation answers =>
      intro snapshot plan final commits
      obtain ⟨_, _, _, _, _, proposed, _, _, rfl, _⟩ := commits.settlement
      exact proposed.port.trans (every _ _ commits.toPlanned.snapshot_found)
  | load container =>
      exact fun state _ =>
        restoreRecords_every OrderedMap.Every.empty fun record _ => record.recovered_port
  | _ => trivial

theorem perform_keyed (operation : Operation)
    (every : OrderedMap.Every (fun port (record : PortRecord) => record.port = port)
      impl.records) :
    OrderedMap.Every (fun port (record : PortRecord) => record.port = port)
      (impl.perform runtime operation).records :=
  (perform_every_iff keyed_invariant every operation).mpr (keyed_established impl operation every)

theorem after_keyed (runtime : Runtime) (operations : List Operation) :
    OrderedMap.Every (fun port (record : PortRecord) => record.port = port)
      (EngineImpl.after runtime operations).records :=
  after_every keyed_invariant keyed_established operations

end Identity

end PortFabric
