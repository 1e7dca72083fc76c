import PortFabric.Engine.Proposals
import PortFabric.Engine.RecoveryProperties

/-!
# Record steps

How the record of one port after an operation comes about from the state before.
-/

set_option autoImplicit false

namespace PortFabric

open PortFabricEngine

variable {runtime : Runtime} {impl : EngineImpl} {operation : Operation} {port : PortId}
  {after : PortRecord}

/-- Where the record that the port has after the operation comes from. -/
inductive RecordStep (runtime : Runtime) (impl : EngineImpl) :
    Operation → PortId → PortRecord → Prop where
  | kept {operation : Operation} {port : PortId} {record : PortRecord}
      (found : impl.records[port]? = some record) : RecordStep runtime impl operation port record
  | bound {request : PortBindingRequest} {answers : MutationAnswers}
      (evidence : Option CapabilityBinding) (absent : impl.records[request.port]? = none) :
      RecordStep runtime impl (.bindPort request answers) request.port
        (boundRecord request evidence)
  | released {operation : Operation} {port : PortId} {record : PortRecord} (reason detail : Text)
      (found : impl.records[port]? = some record) :
      RecordStep runtime impl operation port (record.released reason detail)
  | committed {mutation : Mutation} {answers : MutationAnswers} {snapshot final : PortRecord}
      {plan : MutationPlan} (commits : Commits runtime mutation answers impl snapshot plan final) :
      RecordStep runtime impl (.mutate mutation answers) mutation.port final
  | doubted {mutation : Mutation} {answers : MutationAnswers} {snapshot : PortRecord}
      {plan : MutationPlan} {generation : PortConfigurationGeneration} {detail : Text}
      (doubts : Doubts runtime mutation answers impl snapshot plan generation detail) :
      RecordStep runtime impl (.mutate mutation answers) mutation.port
        (snapshot.uncertain runtime mutation.authority generation .outcomeUnknown detail)
  | recovered {container : Except Outcome PersistedState} {state : PersistedState}
      {record : PortRecord} (recovers : Recovers runtime impl container state)
      (member : record ∈ state.records) :
      RecordStep runtime impl (.load container) record.port record.recovered

private theorem mutate_step {mutation : Mutation} {answers : MutationAnswers}
    (found : (executeMutation runtime mutation answers impl).1.records[port]? = some after) :
    RecordStep runtime impl (.mutate mutation answers) port after := by
  have effect := executeMutation_records runtime mutation answers impl
  generalize (executeMutation runtime mutation answers impl).1.records = performed at effect found
  cases effect with
  | unrecorded _ _ => exact .kept found
  | committed commits =>
      rw [OrderedMap.lookup_insert] at found
      split at found
      · next here =>
          cases found
          exact here ▸ .committed commits
      · exact .kept found
  | doubted doubts =>
      rw [OrderedMap.lookup_insert] at found
      split at found
      · next here =>
          cases found
          exact here ▸ .doubted doubts
      · exact .kept found

private theorem load_step {container : Except Outcome PersistedState}
    (found : (load runtime impl container).1.records[port]? = some after) :
    RecordStep runtime impl (.load container) port after := by
  obtain ⟨_, _, same⟩ | ⟨state, recovers, loaded⟩ := load_effect runtime impl container
  · rw [same] at found
    exact .kept found
  · have restored : OrderedMap.Every
        (fun port record => RecordStep runtime impl (.load container) port record)
        (restoreRecords ∅ state.records).1 :=
      restoreRecords_every OrderedMap.Every.empty fun _ member => .recovered recovers member
    rw [loaded.records] at found
    exact restored port after found

private theorem effect_step {records : RecordMap}
    (effect : RecordsEffect operation impl.records records) (found : records[port]? = some after) :
    RecordStep runtime impl operation port after := by
  cases effect with
  | unchanged => exact .kept found
  | @bound request _ evidence requested absent _ _ =>
      rw [OrderedMap.lookup_insert] at found
      split at found
      · next here =>
          cases found
          subst requested
          exact here ▸ .bound evidence absent
      · exact .kept found
  | released held =>
      rw [OrderedMap.lookup_map] at found
      obtain ⟨record, stored, rfl⟩ := Option.map_eq_some_iff.mp found
      split
      · exact .released _ _ stored
      · exact .kept stored

theorem record_step
    (found : (impl.perform runtime operation).records[port]? = some after) :
    RecordStep runtime impl operation port after := by
  cases operation with
  | mutate mutation answers => exact mutate_step found
  | load container => exact load_step found
  | bindPort | defineProfile | beginEpoch | registerPublisher | fencePublisher | registerDevice
  | setTopologyGeneration | save | shutdown =>
      exact effect_step (perform_records (by simp) rfl) found

section Mutations

variable {mutation : Mutation} {answers : MutationAnswers} {snapshot final : PortRecord}
  {plan : MutationPlan}

theorem Commits.stored_record
    (commits : Commits runtime mutation answers impl snapshot plan final) :
    (impl.perform runtime (.mutate mutation answers)).records[mutation.port]? = some final := by
  rw [EngineImpl.perform, commits.after_eq.1]
  exact OrderedMap.lookup_insert_self ..

theorem Doubts.stored_record {generation : PortConfigurationGeneration} {detail : Text}
    (doubts : Doubts runtime mutation answers impl snapshot plan generation detail) :
    (impl.perform runtime (.mutate mutation answers)).records[mutation.port]? =
      some (snapshot.uncertain runtime mutation.authority generation .outcomeUnknown detail) := by
  rw [EngineImpl.perform, doubts.after_eq]
  exact OrderedMap.lookup_insert_self ..

theorem Commits.retired (commits : Commits runtime mutation answers impl snapshot plan final)
    (terminal : snapshot.lifecycle = .retired) : final.lifecycle = .retired := by
  obtain ⟨proposal, applied, settled, committed, _, stored, rfl⟩ := commits.stored
  obtain ⟨current, found, _, _, guarded, _⟩ := EngineImpl.commitRecord_ok stored
  rw [commits.toPlanned.authorised_found] at found
  cases found
  unfold EngineImpl.committedRecord
  split
  · exact guarded terminal
  · exact guarded terminal

end Mutations

theorem RecordsEffect.stays {before after : RecordMap}
    (effect : RecordsEffect operation before after) (found : (before[port]?).isSome = true) :
    (after[port]?).isSome = true := by
  cases effect with
  | unchanged => exact found
  | bound _ _ _ _ => exact OrderedMap.isSome_insert found
  | released held _ => simpa [OrderedMap.lookup_map] using found

/-- Only a load takes a record away. -/
theorem record_stays (unloaded : operation.isLoad = false)
    (found : (impl.records[port]?).isSome = true) :
    ((impl.perform runtime operation).records[port]?).isSome = true := by
  cases operation with
  | load container => cases unloaded
  | mutate mutation answers =>
      have effect := executeMutation_records runtime mutation answers impl
      rw [EngineImpl.perform]
      generalize (executeMutation runtime mutation answers impl).1.records = after at effect ⊢
      cases effect with
      | unrecorded _ _ => exact found
      | committed _ => exact OrderedMap.isSome_insert found
      | doubted _ => exact OrderedMap.isSome_insert found
  | bindPort | defineProfile | beginEpoch | registerPublisher | fencePublisher | registerDevice
  | setTopologyGeneration | save | shutdown =>
      exact (perform_records (by simp) rfl).stays found

end PortFabric
