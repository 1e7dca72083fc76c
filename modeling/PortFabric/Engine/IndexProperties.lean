import PortFabric.Engine.OperationProperties
import PortFabric.Engine.MutationProperties
import PortFabric.Library.GroupedIndex

/-!
# Properties of the indexes

Every operation keeps the indexes free of empty groups.
-/

set_option autoImplicit false

namespace PortFabric

theorem PortIndex.add_eq {κ : Type} [Ord κ] [Std.TransOrd κ] (index : PortIndex κ) (key : κ)
    (port : PortId) : index.add key port = GroupedIndex.add index key port := rfl

theorem PortIndex.remove_eq {κ : Type} [Ord κ] [Std.TransOrd κ] (index : PortIndex κ) (key : κ)
    (port : PortId) : index.remove key port = GroupedIndex.remove index key port := by
  unfold PortIndex.remove GroupedIndex.remove
  cases index[key]? <;> rfl

namespace PortIndexes

structure Pruned (indexes : PortIndexes) : Prop where
  byDevice : GroupedIndex.Pruned indexes.byDevice
  byLifecycle : GroupedIndex.Pruned indexes.byLifecycle
  byAdministrative : GroupedIndex.Pruned indexes.byAdministrative
  byOwner : GroupedIndex.Pruned indexes.byOwner
  byProfile : GroupedIndex.Pruned indexes.byProfile
  byAggregate : GroupedIndex.Pruned indexes.byAggregate
  derivedFromIndex : GroupedIndex.Pruned indexes.derivedFromIndex

namespace Pruned

variable {indexes : PortIndexes}

theorem empty : Pruned {} :=
  ⟨GroupedIndex.Pruned.empty, GroupedIndex.Pruned.empty, GroupedIndex.Pruned.empty,
    GroupedIndex.Pruned.empty, GroupedIndex.Pruned.empty, GroupedIndex.Pruned.empty,
    GroupedIndex.Pruned.empty⟩

theorem touch (pruned : indexes.Pruned) (record : PortRecord)
    (change : ∀ {κ : Type} [Ord κ] [Std.TransOrd κ], PortIndex κ → κ → PortIndex κ)
    (preserves : ∀ {κ : Type} [Ord κ] [Std.TransOrd κ] [Std.LawfulEqOrd κ] [DecidableEq κ]
      (index : PortIndex κ) (key : κ), GroupedIndex.Pruned index →
        GroupedIndex.Pruned (change index key)) :
    (indexes.touch record change).Pruned := by
  constructor
  case byDevice => exact preserves _ _ pruned.byDevice
  case byLifecycle => exact preserves _ _ pruned.byLifecycle
  case byAdministrative =>
    unfold PortIndexes.touch
    dsimp only
    split
    · exact preserves _ _ pruned.byAdministrative
    · exact pruned.byAdministrative
  case byOwner =>
    unfold PortIndexes.touch
    dsimp only
    split
    · exact preserves _ _ pruned.byOwner
    · exact pruned.byOwner
  case byProfile =>
    unfold PortIndexes.touch
    dsimp only
    split
    · split
      · exact preserves _ _ pruned.byProfile
      · exact pruned.byProfile
    · exact pruned.byProfile
  case byAggregate =>
    unfold PortIndexes.touch
    dsimp only
    split
    · split
      · exact preserves _ _ pruned.byAggregate
      · exact pruned.byAggregate
    · exact pruned.byAggregate
  case derivedFromIndex =>
    unfold PortIndexes.touch
    dsimp only
    split
    · split
      · exact preserves _ _ pruned.derivedFromIndex
      · exact pruned.derivedFromIndex
    · exact pruned.derivedFromIndex

theorem indexAdd (pruned : indexes.Pruned) (record : PortRecord) :
    (indexes.indexAdd record).Pruned := by
  have touched := pruned.touch record (fun index key => index.add key record.port)
    fun _ _ tidy => tidy.add
  obtain ⟨device, lifecycle, administrative, owner, profile, aggregate, derived⟩ := touched
  exact ⟨device, lifecycle, administrative, owner, profile, aggregate, derived⟩

theorem indexRemove (pruned : indexes.Pruned) (record : PortRecord) :
    (indexes.indexRemove record).Pruned := by
  have touched := pruned.touch record (fun index key => index.remove key record.port)
    fun index key tidy => by
      rw [PortIndex.remove_eq]
      exact tidy.remove
  obtain ⟨device, lifecycle, administrative, owner, profile, aggregate, derived⟩ := touched
  exact ⟨device, lifecycle, administrative, owner, profile, aggregate, derived⟩

theorem indexUpdate (pruned : indexes.Pruned) (before after : PortRecord) :
    (indexes.indexUpdate before after).Pruned :=
  (pruned.indexRemove before).indexAdd after

theorem foldl {change : PortIndexes → PortRecord → PortIndexes}
    (keeps : ∀ indexes record, indexes.Pruned → (change indexes record).Pruned)
    (pruned : indexes.Pruned) (records : List PortRecord) :
    (records.foldl change indexes).Pruned := by
  induction records generalizing indexes with
  | nil => exact pruned
  | cons record rest ih => exact ih (keeps indexes record pruned)

theorem reindexAll (records : List PortRecord) : (PortIndexes.reindexAll records).Pruned :=
  empty.foldl (fun _ record pruned => pruned.indexAdd record) records

end Pruned

/-- No index group that a fresh record of the port belongs to contains the port. -/
structure Free (indexes : PortIndexes) (record : PortRecord) : Prop where
  device : ¬GroupedIndex.Holds indexes.byDevice record.parentDevice record.port
  lifecycle : ¬GroupedIndex.Holds indexes.byLifecycle record.lifecycle record.port
  revalidation : record.port ∉ indexes.revalidationRequired

/-- Adding and removing a fresh record restores the indexes exactly when they are free of it. -/
theorem indexRemove_indexAdd_iff {indexes : PortIndexes} (pruned : indexes.Pruned)
    {record : PortRecord} (fresh : record.lifecycle = .unconfigured)
    (bare : record.configuration = none) (unowned : record.ownership = none) :
    (indexes.indexAdd record).indexRemove record = indexes ↔ indexes.Free record := by
  have settled : record.lifecycle ≠ .revalidationRequired := by
    rw [fresh]
    decide
  have changed : (indexes.indexAdd record).indexRemove record =
      { indexes with
        byDevice := GroupedIndex.remove
          (GroupedIndex.add indexes.byDevice record.parentDevice record.port)
          record.parentDevice record.port
        byLifecycle := GroupedIndex.remove
          (GroupedIndex.add indexes.byLifecycle record.lifecycle record.port)
          record.lifecycle record.port
        revalidationRequired := indexes.revalidationRequired.erase record.port } := by
    simp only [PortIndexes.indexRemove, PortIndexes.indexAdd, touch, bare, unowned, settled,
      if_false, PortIndex.remove_eq, PortIndex.add_eq]
  rw [changed]
  constructor
  · intro restored
    have device := congrArg PortIndexes.byDevice restored
    have lifecycle := congrArg PortIndexes.byLifecycle restored
    have revalidation := congrArg PortIndexes.revalidationRequired restored
    refine ⟨(GroupedIndex.remove_add_iff pruned.byDevice).mp device,
      (GroupedIndex.remove_add_iff pruned.byLifecycle).mp lifecycle, fun member => ?_⟩
    dsimp only at revalidation
    rw [← revalidation] at member
    simp at member
  · intro given
    rcases given with ⟨device, lifecycle, revalidation⟩
    rw [(GroupedIndex.remove_add_iff pruned.byDevice).mpr device,
      (GroupedIndex.remove_add_iff pruned.byLifecycle).mpr lifecycle]
    have kept : indexes.revalidationRequired.erase record.port = indexes.revalidationRequired := by
      apply Std.ExtTreeSet.ext_mem
      intro port
      rw [Std.ExtTreeSet.mem_erase]
      constructor
      · exact fun held => held.2
      · intro member
        refine ⟨fun same => revalidation ?_, member⟩
        rw [Std.LawfulEqCmp.compare_eq_iff_eq.mp same]
        exact member
    rw [kept]

end PortIndexes

namespace EngineImpl

variable {runtime : Runtime} {impl : EngineImpl}

theorem authorised_indexes {mutation : Mutation} :
    (impl.authorised runtime mutation).indexes = impl.indexes := by
  obtain ⟨_, same⟩ := checkAuthority_frame runtime impl mutation.authority
  rw [EngineImpl.authorised, same]

/-- The device section keeps the indexes, or removes the record just inserted from them. -/
theorem bindDevice_pruned (pruned : impl.indexes.Pruned) (request : PortBindingRequest)
    (record : PortRecord) : (bindDevice runtime impl request record).1.indexes.Pruned := by
  unfold bindDevice
  dsimp only
  repeat' split
  all_goals first
    | exact pruned
    | exact pruned.indexRemove record

theorem bindPort_pruned (pruned : impl.indexes.Pruned) (request : PortBindingRequest)
    (answers : MutationAnswers) :
    (PortFabricEngine.bindPort runtime impl request answers).1.indexes.Pruned := by
  unfold PortFabricEngine.bindPort
  split
  · exact pruned
  · dsimp only
    split
    · exact pruned
    · next inserted stored =>
        obtain ⟨_, _, same⟩ := insertBinding_ok stored
        have added : inserted.indexes.Pruned := by
          rw [same]
          exact pruned.indexAdd _
        have settled := @bindDevice_pruned runtime inserted added request
          (boundRecord request (probeCapabilities runtime impl request answers.provider))
        split
        · next answered =>
            rw [answered] at settled
            exact settled
        · next answered =>
            rw [answered] at settled
            rw [persistLockedState_indexes]
            exact settled

theorem executeMutation_pruned (pruned : impl.indexes.Pruned) (mutation : Mutation)
    (answers : MutationAnswers) :
    (executeMutation runtime mutation answers impl).1.indexes.Pruned := by
  have effect := executeMutation_effect runtime mutation answers impl
  generalize (executeMutation runtime mutation answers impl).1 = after at effect ⊢
  have authorised : (impl.authorised runtime mutation).indexes.Pruned := by
    rw [authorised_indexes]
    exact pruned
  cases effect with
  | unrecorded _ _ frame =>
      rcases frame with rfl | rfl
      · exact pruned
      · exact authorised
  | committed _ => simpa using authorised.indexUpdate _ _
  | doubted _ => simpa using authorised.indexUpdate _ _

theorem releaseWhere_pruned (pruned : impl.indexes.Pruned) (held : PortRecord → Bool)
    (reason detail : Text) : (impl.releaseWhere held reason detail).indexes.Pruned :=
  pruned.foldl (fun _ record tidy => tidy.indexUpdate record (record.released reason detail)) _

theorem load_pruned (pruned : impl.indexes.Pruned) (container : Except Outcome PersistedState) :
    (PortFabricEngine.load runtime impl container).1.indexes.Pruned := by
  have recovered (base : EngineImpl) (state : PersistedState) (pruned : base.indexes.Pruned) :
      (base.recoverRecords state).1.indexes.Pruned := by
    unfold recoverRecords
    split
    · exact pruned
    · dsimp only
      split
      · split
        · exact .reindexAll _
        · exact .reindexAll _
      · exact .reindexAll _
  unfold PortFabricEngine.load
  repeat' split
  all_goals first
    | exact pruned
    | exact recovered _ _ pruned

theorem perform_pruned (pruned : impl.indexes.Pruned) (operation : Operation) :
    (impl.perform runtime operation).indexes.Pruned := by
  have frame := perform_setting runtime impl operation
  cases operation with
  | bindPort request answers => exact bindPort_pruned pruned request answers
  | mutate mutation answers => exact executeMutation_pruned pruned mutation answers
  | beginEpoch =>
      rw [perform, PortFabricEngine.beginEpoch]
      split
      · exact pruned
      · split
        · exact pruned
        · exact releaseWhere_pruned pruned _ _ _
  | registerPublisher publisher boot epoch =>
      obtain ⟨_, same⟩ := registerPublisher_frame impl publisher boot epoch
      rw [perform, same]
      exact pruned
  | fencePublisher publisher boot =>
      rw [perform, PortFabricEngine.fencePublisher]
      repeat' split
      all_goals first
        | exact pruned
        | exact releaseWhere_pruned pruned _ _ _
  | load container => exact load_pruned pruned container
  | defineProfile | registerDevice | setTopologyGeneration | save | shutdown =>
      rw [(frame rfl).indexes]
      exact pruned

theorem after_pruned (runtime : Runtime) (operations : List Operation) :
    (after runtime operations).indexes.Pruned := by
  have preserved (impl : EngineImpl) (operation : Operation) (pruned : impl.indexes.Pruned) :
      (impl.perform runtime operation).indexes.Pruned := perform_pruned pruned operation
  exact Runs.invariant preserved .empty operations

end EngineImpl

end PortFabric
