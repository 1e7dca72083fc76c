import PortFabric.Engine.Fixture
import PortFabric.Engine.IndexContents
import PortFabric.Engine.Queries
import PortFabric.Engine.WellFormedness
import PortFabric.PersistenceProperties

/-!
# Index consistency

The indexes describe the records, and every query that answers from them
answers the matching ports. A load that stops at an inconsistent record would
replace the records and keep the indexes; the decoder returns no such record.
-/

set_option autoImplicit false

namespace PortFabric

open PortFabricEngine SecondaryIndex

/-- The record belongs to the answer of the query with the key. -/
def PortRecord.Matches (record : PortRecord) : IndexKey → Prop
  | .revalidation =>
      record.lifecycle = .revalidationRequired ∨ record.drift = .revalidationRequired
  | key => record.HasKey key

namespace EngineImpl

variable (impl : EngineImpl)

/-- The answer of the query with the key. -/
def answer : IndexKey → List PortId
  | .device device => portsOfDevice impl device
  | .lifecycle state => portsWithLifecycle impl state
  | .administrative state => portsWithAdministrativeState impl state
  | .owner owner => portsOfOwner impl owner
  | .profile profile => portsByProfile impl profile
  | .aggregate aggregate => portsOfAggregate impl aggregate
  | .parent port => derivedPorts impl port
  | .revalidation => portsRequiringRevalidation impl

/-- The query answers exactly the matching ports, each once, in ascending order. -/
structure AnswersExactly (key : IndexKey) : Prop where
  ascending : (impl.answer key).Pairwise fun lower upper => compare lower upper = .lt
  matching : ∀ port, port ∈ impl.answer key ↔
    ∃ record, impl.records[port]? = some record ∧ record.Matches key

/-- The indexes describe the records and the queries answer by them. -/
structure IndexesConsistent : Prop where
  indexed : impl.Indexed
  queries : ∀ key, impl.AnswersExactly key

end EngineImpl

/-- A load is given what decoding the bytes of a container answered. -/
def Operation.ReadsContainer : Operation → Prop
  | .load container =>
      ∀ state, container = .ok state → ∃ bytes, decodePersistedState bytes = .ok state
  | _ => True

theorem Operation.readsContainer_of_unloaded {operation : Operation}
    (unloaded : operation.isLoad = false) : operation.ReadsContainer := by
  cases operation with
  | load container => cases unloaded
  | _ => trivial

section Queries

variable {impl : EngineImpl}

theorem mem_collect {κ : Type} [Ord κ] [Std.TransOrd κ] {index : PortIndex κ} {key : κ}
    {port : PortId} : port ∈ collect index key ↔ GroupedIndex.Holds index key port := by
  unfold collect GroupedIndex.Holds
  split
  · next absent => simp [absent]
  · next ports found => simp [found, Std.ExtTreeSet.mem_toList]

theorem collect_ascending {κ : Type} [Ord κ] [Std.TransOrd κ] (index : PortIndex κ) (key : κ) :
    (collect index key).Pairwise fun lower upper => compare lower upper = .lt := by
  unfold collect
  split
  · exact .nil
  · exact Std.ExtTreeSet.ordered_toList

theorem mem_uniqueNeighbours {ports : List PortId} {port : PortId} :
    port ∈ uniqueNeighbours ports ↔ port ∈ ports := by
  fun_induction uniqueNeighbours ports with
  | case1 first rest ih => simp [ih]
  | case2 first second rest different ih => simp [ih]
  | case3 short => rfl

/-- Of a sorted list the unique neighbours are ascending. -/
theorem uniqueNeighbours_ascending {ports : List PortId} (sorted : ports.Pairwise portBefore) :
    (uniqueNeighbours ports).Pairwise fun lower upper => compare lower upper = .lt := by
  fun_induction uniqueNeighbours ports with
  | case1 first rest ih => exact ih sorted.tail
  | case2 first second rest different ih =>
      refine List.pairwise_cons.mpr ⟨fun port member => ?_, ih sorted.tail⟩
      obtain ⟨least, later⟩ := List.pairwise_cons.mp sorted
      have less : compare first second = .lt := by
        obtain less | same :=
          Ordering.isLE_iff_eq_lt_or_eq_eq.mp (least second List.mem_cons_self)
        · exact less
        · exact absurd (Std.LawfulEqCmp.compare_eq_iff_eq.mp same) different
      refine Std.TransCmp.lt_of_lt_of_isLE less ?_
      obtain rfl | member := List.mem_cons.mp (mem_uniqueNeighbours.mp member)
      · simp
      · exact (List.pairwise_cons.mp later).1 port member
  | case3 short ends =>
      match short, ends with
      | [], _ => exact .nil
      | [port], _ => exact List.pairwise_singleton ..
      | first :: second :: rest, ends => exact (ends first second rest rfl).elim

theorem mem_portsRequiringRevalidation (indexed : impl.Indexed) (own : impl.OwnPorts)
    {port : PortId} :
    port ∈ portsRequiringRevalidation impl ↔
      ∃ record, impl.records[port]? = some record ∧ record.Matches .revalidation := by
  have required : port ∈ impl.indexes.revalidationRequired ↔ _ := indexed .revalidation port
  simp only [portsRequiringRevalidation, mem_uniqueNeighbours, List.mem_insertionSort,
    List.mem_append, Std.ExtTreeSet.mem_toList, List.mem_map, List.mem_filter, own.mem_values]
  constructor
  · intro given
    rcases given with member | ⟨record, ⟨found, drifted⟩, rfl⟩
    · obtain ⟨record, found, lifecycle⟩ := required.mp member
      exact ⟨record, found, .inl lifecycle⟩
    · simp only [Bool.and_eq_true, decide_eq_true_eq] at drifted
      exact ⟨record, found, .inr drifted.1⟩
  · intro given
    rcases given with ⟨record, found, matched⟩
    obtain rfl := own port record found
    by_cases member : record.port ∈ impl.indexes.revalidationRequired
    · exact .inl member
    · obtain lifecycle | drifted := matched
      · exact absurd (required.mpr ⟨record, found, lifecycle⟩) member
      · have unlisted : impl.indexes.revalidationRequired.contains record.port = false := by
          rw [Std.ExtTreeSet.mem_iff_contains, Bool.not_eq_true] at member
          exact member
        exact .inr ⟨record, ⟨found, by simp [drifted, unlisted]⟩, rfl⟩

/-- Consistent indexes answer every query exactly. -/
theorem EngineImpl.Indexed.answersExactly (indexed : impl.Indexed) (own : impl.OwnPorts)
    (key : IndexKey) : impl.AnswersExactly key := by
  have described := indexed key
  cases key with
  | revalidation =>
      refine ⟨uniqueNeighbours_ascending (List.pairwise_insertionSort portBefore _), fun port => ?_⟩
      exact mem_portsRequiringRevalidation indexed own
  | device | lifecycle | administrative | owner | profile | aggregate | parent =>
      exact ⟨collect_ascending .., fun port => mem_collect.trans (described port)⟩

theorem indexesConsistent_iff (own : impl.OwnPorts) :
    impl.IndexesConsistent ↔ impl.Indexed :=
  ⟨fun consistent => consistent.indexed, fun indexed => ⟨indexed, indexed.answersExactly own⟩⟩

end Queries

section Loads

variable {runtime : Runtime} {impl : EngineImpl}

/-- Every record of a decoded container can be recovered. -/
theorem decoded_recovered {bytes : Text} {state : PersistedState}
    (decoded : decodePersistedState bytes = .ok state) :
    ∀ record ∈ state.records, record.recovered.validate = .ok () := by
  intro record member
  have readable := (decodePersistedState_eq_ok.mp decoded).1
  exact PortRecord.recovered_validate (readable.records.legal record member).consistent

/-- A complete restore rebuilds the indexes. -/
theorem EngineImpl.recoverRecords_rebuilt {state : PersistedState}
    (complete : ∀ record ∈ state.records, record.recovered.validate = .ok ()) :
    (impl.recoverRecords state).1.indexes =
      .reindexAll ((restoreRecords ∅ state.records).1.toList.map Prod.snd) := by
  have whole : (restoreRecords ∅ state.records).2 = none :=
    restoreRecords_complete_iff.mpr complete
  unfold recoverRecords
  split
  · next stopped =>
      rw [stopped] at whole
      cases whole
  · next finished =>
      rw [finished]
      dsimp only
      split
      · split
        · rfl
        · rfl
      · rfl

/-- The indexes after a load that restores every record describe the restored records. -/
theorem Recovers.indexed {container : Except Outcome PersistedState} {state : PersistedState}
    (recovers : Recovers runtime impl container state)
    (complete : ∀ record ∈ state.records, record.recovered.validate = .ok ()) :
    (load runtime impl container).1.Indexed := by
  obtain ⟨profiles, _, same⟩ := recovers.load_eq
  have frame := recoverRecords_frame
    (({ impl with profiles } : EngineImpl).recoverAuthority state (impl.recoveredEpoch state)) state
  obtain ⟨indexes, generation, restored⟩ := frame
  have records : (load runtime impl container).1.records =
      (restoreRecords ∅ state.records).1 := by
    rw [same, restored]
  rw [EngineImpl.Indexed, records, same, EngineImpl.recoverRecords_rebuilt complete]
  apply recordsDescribed_reindexAll
  exact restoreRecords_every OrderedMap.Every.empty fun record _ => record.recovered_port

theorem EngineImpl.Indexed.perform_reads {operation : Operation} (indexed : impl.Indexed)
    (own : impl.OwnPorts) (reads : operation.ReadsContainer) :
    (impl.perform runtime operation).Indexed := by
  cases operation with
  | load container =>
      obtain ⟨_, _, same⟩ | ⟨state, recovers, _⟩ := load_effect runtime impl container
      · rw [EngineImpl.perform, same]
        exact indexed
      · obtain ⟨bytes, decoded⟩ := reads state recovers.read
        exact recovers.indexed (decoded_recovered decoded)
  | _ => exact indexed.perform own rfl

end Loads

/--
Throughout a run whose loads are given what a container decodes to, the indexes
describe the records and every query answers exactly the matching ports.
-/
theorem indexes_consistent_throughout (runtime : Runtime) (operations : List Operation)
    (reads : ∀ operation ∈ operations, operation.ReadsContainer) :
    Runs.Throughout (EngineImpl.perform runtime) EngineImpl.IndexesConsistent
      (.initial runtime.config) operations := by
  have own : (EngineImpl.initial runtime.config).OwnPorts := OrderedMap.Every.empty
  have indexed : (EngineImpl.initial runtime.config).Indexed := fun key port =>
    iff_of_false PortIndexes.not_holds_empty (not_keyed_of_absent (OrderedMap.lookup_empty port))
  have described : Runs.Throughout (EngineImpl.perform runtime)
      (fun impl => impl.OwnPorts ∧ impl.Indexed) (.initial runtime.config) operations :=
    Runs.throughout_along
      (fun _ operation kept reads =>
        ⟨perform_keyed operation kept.1, kept.2.perform_reads kept.1 reads⟩)
      ⟨own, indexed⟩ (Runs.along_of_forall reads)
  exact described.imp fun impl kept => (indexesConsistent_iff kept.1).mpr kept.2

namespace RestoredIndexes

def runtime : Runtime where
  config := { Fixture.engineConfig "coordinator" "ports.pf" .first with persistence := .manual }

def port : PortId := "syn-sw1-p01"

def container : PersistedState where
  epoch := .first
  engineGeneration := .first
  topology := .first
  records :=
    [{ port, parentDevice := Fixture.device, generations := { device := .first } : PortRecord }]

theorem readable : container.Readable := by
  refine ⟨⟨by decide, ?_, List.nodup_singleton _⟩,
    ⟨Nat.zero_le _, List.forall_mem_nil _, List.nodup_nil⟩,
    ⟨Nat.zero_le _, List.forall_mem_nil _, List.nodup_nil⟩,
    ⟨Nat.zero_le _, List.forall_mem_nil _, List.nodup_nil⟩⟩
  exact List.forall_mem_singleton.mpr ⟨by decide +kernel, by decide +kernel, rfl⟩

set_option maxRecDepth 100000 in
theorem decoded : ∃ bytes, decodePersistedState bytes = .ok container := by
  have fits : ((ByteLayout.state container).document.any fun payload =>
      payload.length ≤ maxPersistenceBytes) = true := by
    decide +kernel
  obtain ⟨payload, written, bounded⟩ := (Option.any_eq_true ..).mp fits
  exact ⟨PortFabric.container payload,
    decodePersistedState_eq_ok.mpr ⟨readable, payload, written, of_decide_eq_true bounded, rfl⟩⟩

set_option maxRecDepth 100000 in
/-- The load of a container with one record leaves consistent indexes that list its port. -/
theorem restored_listed : ∃ bytes, decodePersistedState bytes = .ok container ∧
    Runs.Throughout (EngineImpl.perform runtime) EngineImpl.IndexesConsistent
      (.initial runtime.config) [.load (decodePersistedState bytes), .shutdown] ∧
    portsOfDevice (EngineImpl.after runtime [.load (decodePersistedState bytes)])
      Fixture.device = [port] := by
  obtain ⟨bytes, decoded⟩ := decoded
  refine ⟨bytes, decoded, indexes_consistent_throughout runtime _ ?_, ?_⟩
  · refine List.forall_mem_cons.mpr ⟨fun state read => ⟨bytes, read⟩, ?_⟩
    exact List.forall_mem_singleton.mpr trivial
  · rw [decoded]
    decide +kernel

end RestoredIndexes

end PortFabric
