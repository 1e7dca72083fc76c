import PortFabric.Engine.IndexProperties
import PortFabric.Engine.RecordInvariants
import PortFabric.Library.SecondaryIndex

/-!
# Index contents

All indexes of the engine as one relation between keys and ports, the keys a
record has, and how the relation follows the records.
-/

set_option autoImplicit false

namespace PortFabric

open PortFabricEngine SecondaryIndex

inductive IndexKey where
  | device (device : DeviceId)
  | lifecycle (state : PortLifecycle)
  | administrative (state : AdministrativeState)
  | owner (owner : OwnerId)
  | profile (profile : PortProfileId)
  | aggregate (aggregate : AggregateId)
  | parent (port : PortId)
  | revalidation

/-- The keys under which the record is indexed. -/
def PortRecord.HasKey (record : PortRecord) : IndexKey → Prop
  | .device device => record.parentDevice = device
  | .lifecycle state => record.lifecycle = state
  | .administrative state =>
      ∃ configuration ∈ record.configuration, configuration.administrative = state
  | .owner owner => ∃ ownership ∈ record.ownership, ownership.owner = owner
  | .profile profile =>
      ∃ configuration ∈ record.configuration,
        configuration.profile.bound = true ∧ configuration.profile.id = profile
  | .aggregate aggregate =>
      ∃ configuration ∈ record.configuration,
        configuration.aggregation.member = true ∧ configuration.aggregation.aggregate = aggregate
  | .parent port =>
      ∃ configuration ∈ record.configuration,
        configuration.derivedFrom.valid = true ∧ configuration.derivedFrom = port
  | .revalidation => record.lifecycle = .revalidationRequired

namespace PortIndexes

/-- The port is indexed under the key. -/
def Holds (indexes : PortIndexes) : IndexKey → PortId → Prop
  | .device device => GroupedIndex.Holds indexes.byDevice device
  | .lifecycle state => GroupedIndex.Holds indexes.byLifecycle state
  | .administrative state => GroupedIndex.Holds indexes.byAdministrative state
  | .owner owner => GroupedIndex.Holds indexes.byOwner owner
  | .profile profile => GroupedIndex.Holds indexes.byProfile profile
  | .aggregate aggregate => GroupedIndex.Holds indexes.byAggregate aggregate
  | .parent port => GroupedIndex.Holds indexes.derivedFromIndex port
  | .revalidation => fun port => port ∈ indexes.revalidationRequired

variable {indexes : PortIndexes} {record : PortRecord} {key : IndexKey} {port : PortId}

theorem not_holds_empty : ¬({} : PortIndexes).Holds key port := by
  cases key <;> simp [Holds]

theorem holds_indexAdd :
    (indexes.indexAdd record).Holds key port ↔
      (record.HasKey key ∧ record.port = port) ∨ indexes.Holds key port := by
  cases key with
  | device | lifecycle =>
      simp only [indexAdd, touch, Holds, PortIndex.add_eq, GroupedIndex.holds_add,
        PortRecord.HasKey]
  | administrative | owner =>
      simp only [indexAdd, touch, Holds, PortIndex.add_eq, PortRecord.HasKey]
      split
      · next present => simp [present, GroupedIndex.holds_add]
      · next absent => simp [absent]
  | profile | aggregate | parent =>
      simp only [indexAdd, touch, Holds, PortIndex.add_eq, PortRecord.HasKey]
      split
      · next present =>
          split
          · next bound => simp [present, bound, GroupedIndex.holds_add]
          · next free => simp [present, free]
      · next absent => simp [absent]
  | revalidation =>
      simp only [indexAdd, Holds, PortRecord.HasKey]
      split
      · next required => simp [required, Std.LawfulEqCmp.compare_eq_iff_eq]
      · next other => simp [other]

/-- The removal takes the port out of the revalidation set whatever its record says. -/
theorem holds_indexRemove :
    (indexes.indexRemove record).Holds key port ↔
      ¬((record.HasKey key ∨ key = .revalidation) ∧ record.port = port) ∧
        indexes.Holds key port := by
  cases key with
  | device | lifecycle =>
      simp only [indexRemove, touch, Holds, PortIndex.remove_eq, GroupedIndex.holds_remove,
        PortRecord.HasKey, reduceCtorEq, or_false]
  | administrative | owner =>
      simp only [indexRemove, touch, Holds, PortIndex.remove_eq, PortRecord.HasKey,
        reduceCtorEq, or_false]
      split
      · next present => simp [present, GroupedIndex.holds_remove]
      · next absent => simp [absent]
  | profile | aggregate | parent =>
      simp only [indexRemove, touch, Holds, PortIndex.remove_eq, PortRecord.HasKey,
        reduceCtorEq, or_false]
      split
      · next present =>
          split
          · next bound => simp [present, bound, GroupedIndex.holds_remove]
          · next free => simp [present, free]
      · next absent => simp [absent]
  | revalidation =>
      simp only [indexRemove, Holds, or_true, true_and, Std.ExtTreeSet.mem_erase,
        Std.LawfulEqCmp.compare_eq_iff_eq, ne_eq]

theorem holds_indexUpdate {before after : PortRecord} :
    (indexes.indexUpdate before after).Holds key port ↔
      (after.HasKey key ∧ after.port = port) ∨
        ¬((before.HasKey key ∨ key = .revalidation) ∧ before.port = port) ∧
          indexes.Holds key port := by
  rw [indexUpdate, holds_indexAdd, holds_indexRemove]

theorem holds_foldl_indexAdd {records : List PortRecord} :
    (records.foldl indexAdd indexes).Holds key port ↔
      (∃ record ∈ records, record.HasKey key ∧ record.port = port) ∨
        indexes.Holds key port := by
  induction records generalizing indexes with
  | nil => simp
  | cons record rest ih =>
      rw [List.foldl_cons, ih, holds_indexAdd]
      simp [or_assoc, or_left_comm]

/-- Updates of records of different ports, each indexed as it is, act port for port. -/
theorem holds_foldl_indexUpdate {records : List PortRecord} {change : PortRecord → PortRecord}
    (apart : records.Pairwise fun first second => first.port ≠ second.port)
    (keeps : ∀ record, (change record).port = record.port)
    (exactly : ∀ record ∈ records, ∀ key,
      indexes.Holds key record.port → record.HasKey key) :
    (records.foldl (fun indexes record => indexes.indexUpdate record (change record))
        indexes).Holds key port ↔
      (∃ record ∈ records, (change record).HasKey key ∧ record.port = port) ∨
        (∀ record ∈ records, record.port ≠ port) ∧ indexes.Holds key port := by
  induction records generalizing indexes with
  | nil => simp
  | cons record rest ih =>
      obtain ⟨first, later⟩ := List.pairwise_cons.mp apart
      have step : (indexes.indexUpdate record (change record)).Holds key port ↔
          ((change record).HasKey key ∧ record.port = port) ∨
            record.port ≠ port ∧ indexes.Holds key port := by
        rw [holds_indexUpdate, keeps]
        by_cases here : record.port = port
        · subst here
          have own := exactly record List.mem_cons_self key
          tauto
        · simp [here]
      rw [List.foldl_cons, ih later, step]
      · constructor
        · intro given
          rcases given with ⟨other, member, keyed, same⟩ | ⟨apart, ⟨keyed, here⟩ | ⟨different,
            held⟩⟩
          · exact .inl ⟨other, List.mem_cons_of_mem _ member, keyed, same⟩
          · exact .inl ⟨record, List.mem_cons_self, keyed, here⟩
          · exact .inr ⟨List.forall_mem_cons.mpr ⟨different, apart⟩, held⟩
        · intro given
          rcases given with ⟨other, member, keyed, same⟩ | ⟨apart, held⟩
          · obtain rfl | member := List.mem_cons.mp member
            · refine .inr ⟨fun another member here => ?_, .inl ⟨keyed, same⟩⟩
              exact first another member (same.trans here.symm)
            · exact .inl ⟨other, member, keyed, same⟩
          · obtain ⟨different, apart⟩ := List.forall_mem_cons.mp apart
            exact .inr ⟨apart, .inr ⟨different, held⟩⟩
      · intro other member key held
        rw [holds_indexUpdate, keeps] at held
        obtain ⟨_, same⟩ | ⟨_, held⟩ := held
        · exact absurd same (first other member)
        · exact exactly other (List.mem_cons_of_mem _ member) key held

end PortIndexes

/-- Every index holds for every key exactly the ports whose record has the key. -/
def EngineImpl.Indexed (impl : EngineImpl) : Prop :=
  Describes PortRecord.HasKey (fun port => impl.records[port]?) impl.indexes.Holds

section Updates

variable {records : RecordMap} {indexes : PortIndexes} {port : PortId}
  {before after record : PortRecord}

abbrev RecordsDescribed (records : RecordMap) (indexes : PortIndexes) : Prop :=
  Describes PortRecord.HasKey (fun port => records[port]?) indexes.Holds

theorem RecordsDescribed.insert (described : RecordsDescribed records indexes)
    (absent : records[port]? = none) (own : record.port = port) :
    RecordsDescribed (records.insert port record) (indexes.indexAdd record) := by
  subst own
  refine Describes.change record.port described (fun other different => ?_)
    (fun key other different => ?_) fun key => ?_
  · exact OrderedMap.lookup_insert_of_ne different.symm
  · simp [PortIndexes.holds_indexAdd, different.symm]
  · have free : ¬indexes.Holds key record.port :=
      fun held => not_keyed_of_absent absent ((described key record.port).mp held)
    rw [keyed_of_lookup (OrderedMap.lookup_insert_self ..), PortIndexes.holds_indexAdd]
    simp [free]

theorem RecordsDescribed.update (described : RecordsDescribed records indexes)
    (found : records[port]? = some before) (own : before.port = port) (kept : after.port = port) :
    RecordsDescribed (records.insert port after) (indexes.indexUpdate before after) := by
  subst own
  refine Describes.change before.port described (fun other different => ?_)
    (fun key other different => ?_) fun key => ?_
  · exact OrderedMap.lookup_insert_of_ne different.symm
  · simp [PortIndexes.holds_indexUpdate, kept, different.symm]
  · have held : indexes.Holds key before.port → before.HasKey key := fun held =>
      (keyed_of_lookup found).mp ((described key before.port).mp held)
    rw [keyed_of_lookup (OrderedMap.lookup_insert_self ..), PortIndexes.holds_indexUpdate, kept]
    tauto

/-- Removing a record whose keys cover those of the stored one. -/
theorem RecordsDescribed.erase (described : RecordsDescribed records indexes)
    (own : record.port = port) (covers : ∀ key, indexes.Holds key port → record.HasKey key) :
    RecordsDescribed (records.erase port) (indexes.indexRemove record) := by
  subst own
  have erased : (records.erase record.port)[record.port]? = none := by
    simp
  refine Describes.change record.port described (fun other different => ?_)
    (fun key other different => ?_) fun key => ?_
  · simp [OrderedMap.lookup_erase, different.symm]
  · simp [PortIndexes.holds_indexRemove, different.symm]
  · refine iff_of_false ?_ (not_keyed_of_absent erased)
    rw [PortIndexes.holds_indexRemove]
    intro given
    rcases given with ⟨remaining, held⟩
    exact remaining ⟨.inl (covers key held), rfl⟩

theorem recordsDescribed_reindexAll
    (keyed : OrderedMap.Every (fun port record => record.port = port) records) :
    RecordsDescribed records (.reindexAll (records.toList.map Prod.snd)) := by
  intro key port
  rw [PortIndexes.reindexAll, PortIndexes.holds_foldl_indexAdd]
  simp only [PortIndexes.not_holds_empty, or_false]
  constructor
  · intro given
    rcases given with ⟨record, member, has, rfl⟩
    obtain ⟨⟨other, _⟩, listed, rfl⟩ := List.mem_map.mp member
    have found := OrderedMap.mem_toList.mp listed
    rw [← keyed _ _ found] at found
    exact ⟨_, found, has⟩
  · intro given
    rcases given with ⟨record, found, has⟩
    have listed : record ∈ records.toList.map Prod.snd :=
      List.mem_map.mpr ⟨(port, record), OrderedMap.mem_toList.mpr found, rfl⟩
    exact ⟨record, listed, has, keyed _ _ found⟩

end Updates

section Operations

variable {runtime : Runtime} {impl : EngineImpl}

abbrev EngineImpl.OwnPorts (impl : EngineImpl) : Prop :=
  OrderedMap.Every (fun port (record : PortRecord) => record.port = port) impl.records

theorem EngineImpl.OwnPorts.mem_values (own : impl.OwnPorts) {record : PortRecord} :
    record ∈ impl.records.toList.map Prod.snd ↔ impl.records[record.port]? = some record := by
  constructor
  · intro member
    obtain ⟨⟨port, _⟩, listed, rfl⟩ := List.mem_map.mp member
    have found := OrderedMap.mem_toList.mp listed
    rwa [← own _ _ found] at found
  · intro found
    exact List.mem_map.mpr ⟨(record.port, record), OrderedMap.mem_toList.mpr found, rfl⟩

theorem EngineImpl.OwnPorts.apart (own : impl.OwnPorts) :
    (impl.records.toList.map Prod.snd).Pairwise fun first second => first.port ≠ second.port := by
  rw [List.pairwise_map]
  refine Std.ExtTreeMap.distinct_keys_toList.imp_of_mem ?_
  intro first second listed other distinct same
  have here := own _ _ (OrderedMap.mem_toList.mp listed)
  have there := own _ _ (OrderedMap.mem_toList.mp other)
  apply distinct
  rw [Std.LawfulEqCmp.compare_eq_iff_eq, ← here, ← there]
  exact same

theorem EngineImpl.Indexed.releaseWhere (indexed : impl.Indexed) (own : impl.OwnPorts)
    (held : PortRecord → Bool) (reason detail : Text) :
    (impl.releaseWhere held reason detail).Indexed := by
  intro key port
  have exactly : ∀ record ∈ (impl.records.toList.map Prod.snd).filter held, ∀ key,
      impl.indexes.Holds key record.port → record.HasKey key := by
    intro record member key listed
    have found := own.mem_values.mp (List.mem_filter.mp member).1
    exact (keyed_of_lookup found).mp ((indexed key record.port).mp listed)
  have changed : (impl.releaseWhere held reason detail).records[port]? =
      (impl.records[port]?).map fun record =>
        if held record then record.released reason detail else record :=
    releaseWhere_lookup port
  have keeps (record : PortRecord) : (record.released reason detail).port = record.port := rfl
  simp only [EngineImpl.releaseWhere] at changed ⊢
  rw [PortIndexes.holds_foldl_indexUpdate (own.apart.filter _) keeps exactly, indexed key port]
  simp only [List.mem_filter, own.mem_values]
  cases found : impl.records[port]? with
  | none =>
      rw [found] at changed
      refine iff_of_false ?_ (not_keyed_of_absent changed)
      intro given
      rcases given with ⟨record, ⟨stored, _⟩, _, rfl⟩ | ⟨_, keyed⟩
      · rw [found] at stored
        cases stored
      · exact not_keyed_of_absent found keyed
  | some record =>
      rw [found, Option.map_some] at changed
      obtain rfl := own port record found
      rw [keyed_of_lookup changed, keyed_of_lookup found]
      split
      · next released =>
          constructor
          · intro given
            rcases given with ⟨other, ⟨stored, _⟩, keyed, same⟩ | ⟨apart, _⟩
            · rw [same, found] at stored
              cases stored
              exact keyed
            · exact absurd rfl (apart record ⟨found, released⟩)
          · exact fun keyed => .inl ⟨record, ⟨found, released⟩, keyed, rfl⟩
      · next kept =>
          constructor
          · intro given
            rcases given with ⟨other, ⟨stored, released⟩, _, same⟩ | ⟨_, keyed⟩
            · rw [same, found] at stored
              cases stored
              exact absurd released kept
            · exact keyed
          · intro keyed
            refine .inr ⟨?_, keyed⟩
            intro other given same
            rcases given with ⟨stored, released⟩
            rw [same, found] at stored
            cases stored
            exact kept released

/-- A change that keeps the records and the indexes keeps the description. -/
theorem EngineImpl.Indexed.congr {other : EngineImpl} (indexed : impl.Indexed)
    (records : other.records = impl.records) (indexes : other.indexes = impl.indexes) :
    other.Indexed := by
  rw [EngineImpl.Indexed, records, indexes]
  exact indexed

theorem EngineImpl.Indexed.replaceRecord (indexed : impl.Indexed) {port : PortId}
    {before after : PortRecord} (found : impl.records[port]? = some before)
    (own : before.port = port) (kept : after.port = port) :
    (impl.replaceRecord port before after).Indexed :=
  RecordsDescribed.update indexed found own kept

theorem EngineImpl.Indexed.persistLockedState (indexed : impl.Indexed) (store : StoreAnswers) :
    (impl.persistLockedState runtime store).1.Indexed :=
  indexed.congr (persistLockedState_records ..) (persistLockedState_indexes ..)

theorem EngineImpl.Indexed.executeMutation (indexed : impl.Indexed) (own : impl.OwnPorts)
    (mutation : Mutation) (answers : MutationAnswers) :
    (executeMutation runtime mutation answers impl).1.Indexed := by
  have effect := executeMutation_effect runtime mutation answers impl
  have authorised : (impl.authorised runtime mutation).Indexed :=
    indexed.congr authorised_records authorised_indexes
  generalize (PortFabric.executeMutation runtime mutation answers impl).1 = after at effect ⊢
  cases effect with
  | unrecorded _ _ frame =>
      rcases frame with rfl | rfl
      · exact indexed
      · exact authorised
  | committed commits =>
      have port := own _ _ commits.toPlanned.snapshot_found
      obtain ⟨_, _, _, _, _, proposed, _, _, rfl, _⟩ := commits.settlement
      refine (authorised.replaceRecord commits.toPlanned.authorised_found port
        ?_).persistLockedState answers.store
      exact proposed.port.trans port
  | doubted doubts =>
      have port := own _ _ doubts.toPlanned.snapshot_found
      refine (authorised.replaceRecord doubts.toPlanned.authorised_found port ?_).persistLockedState
        answers.store
      rw [PortRecord.uncertain_port]
      exact port

/-- The device section keeps the description, also when it undoes the insertion. -/
theorem EngineImpl.Indexed.bindDevice (indexed : impl.Indexed) {request : PortBindingRequest}
    {record : PortRecord} (own : record.port = request.port)
    (stored : impl.records[request.port]? = some record) :
    (bindDevice runtime impl request record).1.Indexed := by
  unfold PortFabric.bindDevice
  dsimp only
  split
  · split
    · exact indexed
    · exact indexed
  · split
    · exact indexed
    · split
      · refine RecordsDescribed.erase indexed own fun key held => ?_
        exact (keyed_of_lookup stored).mp ((indexed key request.port).mp held)
      · exact indexed

theorem EngineImpl.Indexed.bindPort (indexed : impl.Indexed)
    (request : PortBindingRequest) (answers : MutationAnswers) :
    (PortFabricEngine.bindPort runtime impl request answers).1.Indexed := by
  unfold PortFabricEngine.bindPort
  split
  · exact indexed
  · dsimp only
    split
    · exact indexed
    · next inserted stored =>
        obtain ⟨absent, _, same⟩ := insertBinding_ok stored
        have added : inserted.Indexed := by
          rw [same]
          exact RecordsDescribed.insert indexed absent rfl
        have settled : (PortFabric.bindDevice runtime inserted request (boundRecord request
            (probeCapabilities runtime impl request answers.provider))).1.Indexed := by
          refine added.bindDevice rfl ?_
          rw [same]
          exact OrderedMap.lookup_insert_self ..
        split
        · next answered =>
            rw [answered] at settled
            exact settled
        · next answered =>
            rw [answered] at settled
            exact settled.persistLockedState answers.store

/-- Every operation but a load keeps the indexes consistent with the records. -/
theorem EngineImpl.Indexed.perform (indexed : impl.Indexed) (own : impl.OwnPorts)
    {operation : Operation} (unloaded : operation.isLoad = false) :
    (impl.perform runtime operation).Indexed := by
  have frame := perform_setting runtime impl operation
  cases operation with
  | bindPort request answers => exact indexed.bindPort request answers
  | mutate mutation answers => exact indexed.executeMutation own mutation answers
  | beginEpoch =>
      rw [EngineImpl.perform, PortFabricEngine.beginEpoch]
      split
      · exact indexed
      · split
        · exact indexed
        · exact releaseWhere indexed own _ _ _
  | registerPublisher publisher boot epoch =>
      obtain ⟨_, same⟩ := registerPublisher_frame impl publisher boot epoch
      rw [EngineImpl.perform, same]
      exact indexed
  | fencePublisher publisher boot =>
      rw [EngineImpl.perform, PortFabricEngine.fencePublisher]
      repeat' split
      all_goals first
        | exact indexed
        | exact releaseWhere indexed own _ _ _
  | load container => simp [Operation.isLoad] at unloaded
  | defineProfile | registerDevice | setTopologyGeneration | save | shutdown =>
      exact indexed.congr (frame rfl).records (frame rfl).indexes

end Operations

end PortFabric
