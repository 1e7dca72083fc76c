import PortFabric.Engine.Fixture
import PortFabric.Engine.GenerationProperties
import PortFabric.Engine.Views

/-!
# Snapshot currency

Every operation but a load that changes a record advances the engine generation.
While the counter has room, the generation a snapshot was taken at determines
the records, and a snapshot that is current shows the records there are.
-/

set_option autoImplicit false

namespace PortFabric

open PortFabricEngine

/-- The snapshot still describes a state with this generation and epoch. -/
def Snapshot.currentFor (snapshot : Snapshot) (currentGeneration : EngineGeneration)
    (currentEpoch : CoordinatorEpoch) : Bool :=
  snapshot.generation.valid && decide (snapshot.generation = currentGeneration) &&
    decide (snapshot.epoch = currentEpoch)

theorem Snapshot.currentFor_generation {snapshot : Snapshot} {generation : EngineGeneration}
    {epoch : CoordinatorEpoch} (current : snapshot.currentFor generation epoch = true) :
    snapshot.generation = generation := by
  simp only [currentFor, Bool.and_eq_true, decide_eq_true_eq] at current
  exact current.1.2

/-- A snapshot lists the records of its state, sorted by port. -/
theorem PortFabricEngine.snapshot_records (runtime : Runtime) (impl : EngineImpl) :
    (snapshot runtime impl).records.Perm (impl.records.toList.map Prod.snd) :=
  List.perm_insertionSort _ _

section Runs

variable {runtime : Runtime} {start : EngineImpl} {operations first second : List Operation}

/-- In a run without a load that leaves the counter room, the generation determines the records. -/
theorem records_eq_of_generation_eq
    (unloaded : ∀ operation ∈ operations, operation.isLoad = false)
    (room : Runs.Throughout (EngineImpl.perform runtime)
      (fun impl => impl.generation.exhaustible = false) start operations)
    (former : first <+: operations) (latter : second <+: operations)
    (same : (Runs.run (EngineImpl.perform runtime) start first).generation =
      (Runs.run (EngineImpl.perform runtime) start second).generation) :
    (Runs.run (EngineImpl.perform runtime) start first).records =
      (Runs.run (EngineImpl.perform runtime) start second).records := by
  refine Runs.contents_eq_of_stamp_eq (fun impl => impl.generation.value) EngineImpl.records ?_ ?_
    (room.along unloaded) former latter (congrArg Generation.value same)
  · intro impl operation given
    rcases given with ⟨_, plain⟩
    exact (EngineImpl.perform_stamps plain).le
  · intro impl operation given same
    rcases given with ⟨room, plain⟩
    exact (EngineImpl.perform_stamps plain).kept room (Generation.ext same)

/--
In any run of operations other than loads that leaves the engine generation
room, two states of one generation have the same records, and a snapshot of the
one that is current in the other lists exactly the records of the other.
-/
theorem snapshots_current (runtime : Runtime) (start : EngineImpl) (operations : List Operation)
    (unloaded : ∀ operation ∈ operations, operation.isLoad = false)
    (room : Runs.Throughout (EngineImpl.perform runtime)
      (fun impl => impl.generation.exhaustible = false) start operations)
    (first second : List Operation) (former : first <+: operations)
    (latter : second <+: operations) :
    let taken := Runs.run (EngineImpl.perform runtime) start first
    let current := Runs.run (EngineImpl.perform runtime) start second
    (taken.generation = current.generation → taken.records = current.records) ∧
      ((snapshot runtime taken).currentFor current.generation current.epoch = true →
        (snapshot runtime taken).records.Perm (current.records.toList.map Prod.snd)) := by
  intro taken current
  have determined (same : taken.generation = current.generation) :
      taken.records = current.records :=
    records_eq_of_generation_eq unloaded room former latter same
  refine ⟨determined, fun reported => ?_⟩
  have same : taken.generation = current.generation := Snapshot.currentFor_generation reported
  rw [← determined same]
  exact snapshot_records runtime taken

end Runs

namespace SavedSnapshot

def port : PortId := "syn-sw1-p01"

/-- A port is bound, and the engine state is saved. -/
def operations : List Operation := [Fixture.bind port "bind-1", .save {}]

/-- The snapshot taken before the save is still current after it. -/
theorem current_after_save :
    (snapshot Fixture.runtime (EngineImpl.after Fixture.runtime (operations.take 1))).records.Perm
      ((EngineImpl.after Fixture.runtime operations).records.toList.map Prod.snd) := by
  have unloaded : ∀ operation ∈ operations, operation.isLoad = false := by decide
  exact (snapshots_current Fixture.runtime (.initial Fixture.runtime.config) operations unloaded
    (by decide +kernel) (operations.take 1) operations (List.take_prefix 1 operations)
    (List.prefix_refl operations)).2 (by decide +kernel)

end SavedSnapshot

end PortFabric
