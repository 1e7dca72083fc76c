import PortFabric.Engine.Fixture
import PortFabric.Engine.IndexProperties

/-!
# Binding atomicity

`bind_port` inserts its record before it looks at the parent device. The
refusals of the device step come too late to leave the tables as they were.
-/

set_option autoImplicit false

namespace PortFabric

open PortFabricEngine

structure SameTables (impl after : EngineImpl) : Prop where
  records : after.records = impl.records
  indexes : after.indexes = impl.indexes
  devices : after.devices = impl.devices
  generation : after.generation = impl.generation

namespace EngineImpl

/-- The binding passes every check that is made before its record is inserted. -/
structure Insertable (runtime : Runtime) (impl : EngineImpl) (request : PortBindingRequest)
    (record : PortRecord) : Prop where
  admitted : admitBinding impl request = .ok ()
  unbound : impl.records[request.port]? = none
  room : impl.records.size < runtime.config.portBound
  validated : record.validate = .ok ()

/--
The device step does not refuse the binding, or undoes the insertion in full:
only an exhausted engine generation is not moved by the insertion, and only
indexes without the port are restored by its removal.
-/
def DeviceSettles (runtime : Runtime) (impl : EngineImpl) (request : PortBindingRequest)
    (record : PortRecord) : Prop :=
  match impl.devices[request.parentDevice]? with
  | none => impl.devices.size < runtime.config.deviceBound
  | some existing =>
      existing.generation ≤ request.deviceGeneration ∨
        (impl.generation.exhaustible = true ∧ impl.indexes.Free record)

section Binding

variable {runtime : Runtime} {impl : EngineImpl} {request : PortBindingRequest}
  {answers : MutationAnswers}

/-- The record the binding inserts. -/
abbrev probedRecord (runtime : Runtime) (impl : EngineImpl) (request : PortBindingRequest)
    (answers : MutationAnswers) : PortRecord :=
  boundRecord request (probeCapabilities runtime impl request answers.provider)

/-- The engine after the records section of a binding. -/
def insertedInto (impl : EngineImpl) (request : PortBindingRequest) (record : PortRecord) :
    EngineImpl :=
  { impl with
    records := impl.records.insert request.port record
    indexes := impl.indexes.indexAdd record
    generation := impl.generation.advance }

theorem insertBinding_room {evidence : Option CapabilityBinding} {inserted : EngineImpl}
    (stored : insertBinding runtime impl request evidence = .ok inserted) :
    impl.records.size < runtime.config.portBound := by
  unfold insertBinding at stored
  split at stored
  · cases stored
  · split at stored
    · cases stored
    · next room => exact Nat.not_le.mp room

theorem bindPort_of_not_insertable
    (refused : ¬impl.Insertable runtime request (probedRecord runtime impl request answers)) :
    (bindPort runtime impl request answers).1 = impl := by
  unfold bindPort
  split
  · rfl
  · next admitted =>
      dsimp only
      split
      · rfl
      · next inserted stored =>
          obtain ⟨unbound, validated, _⟩ := insertBinding_ok stored
          exact absurd ⟨admitted, unbound, insertBinding_room stored, validated⟩ refused

theorem bindPort_of_insertable
    (insertable : impl.Insertable runtime request (probedRecord runtime impl request answers)) :
    bindPort runtime impl request answers =
      match bindDevice runtime
          (impl.insertedInto request (probedRecord runtime impl request answers)) request
          (probedRecord runtime impl request answers) with
      | (settled, some result) => (settled, result)
      | (settled, none) =>
          ((settled.persistLockedState runtime answers.store).1,
            { MutationResult.reporting (.success "canonical port identity bound")
                (probedRecord runtime impl request answers) with
              ownershipGeneration := .null }) := by
  have inserted : insertBinding runtime impl request
      (probeCapabilities runtime impl request answers.provider) =
        .ok (impl.insertedInto request (probedRecord runtime impl request answers)) := by
    simp only [insertBinding, insertable.unbound, Nat.not_le.mpr insertable.room, if_false,
      insertable.validated, insertedInto]
  rw [bindPort, insertable.admitted]
  dsimp only
  rewrite [inserted]
  rfl

/-- A binding that is inserted and refused leaves the tables alone when its insertion is undone. -/
theorem inserted_sameTables_iff (pruned : impl.indexes.Pruned)
    (insertable : impl.Insertable runtime request (probedRecord runtime impl request answers)) :
    ((bindPort runtime impl request answers).2.accepted = false →
        SameTables impl (bindPort runtime impl request answers).1) ↔
      impl.DeviceSettles runtime request (probedRecord runtime impl request answers) := by
  rw [bindPort_of_insertable insertable, DeviceSettles]
  have fresh : (probedRecord runtime impl request answers).lifecycle = .unconfigured := rfl
  have bare : (probedRecord runtime impl request answers).configuration = none := rfl
  have unowned : (probedRecord runtime impl request answers).ownership = none := rfl
  generalize probedRecord runtime impl request answers = record at *
  have absent : impl.records[request.port]? = none := insertable.unbound
  have changed : impl.records.insert request.port record ≠ impl.records := by
    intro same
    have found := congrArg (·[request.port]?) same
    simp [absent] at found
  cases device : impl.devices[request.parentDevice]? with
  | none =>
      by_cases full : impl.devices.size ≥ runtime.config.deviceBound
      · simp only [bindDevice, insertedInto, device, full, if_true]
        constructor
        · exact fun kept => absurd (kept rfl).records changed
        · exact fun room => absurd room (Nat.not_lt.mpr full)
      · simp only [bindDevice, insertedInto, device, full, if_false]
        refine iff_of_true (fun refused => ?_) (Nat.not_le.mp full)
        cases refused
  | some existing =>
      by_cases older : existing.generation < request.deviceGeneration
      · simp only [bindDevice, insertedInto, device, older, if_true]
        refine iff_of_true (fun refused => ?_) (.inl (Generation.le_of_lt older))
        cases refused
      by_cases newer : request.deviceGeneration < existing.generation
      · simp only [bindDevice, insertedInto, device, older, newer, if_true, if_false]
        have replaced : ¬existing.generation ≤ request.deviceGeneration :=
          fun current => Generation.ne_of_lt (Generation.lt_of_lt_of_le newer current) rfl
        constructor
        · intro kept
          obtain ⟨_, indexes, _, generation⟩ := kept rfl
          exact .inr ⟨Generation.advance_eq_self_iff.mp generation,
            (PortIndexes.indexRemove_indexAdd_iff pruned fresh bare unowned).mp indexes⟩
        · intro given
          rcases given with current | ⟨exhausted, free⟩
          · exact absurd current replaced
          · exact fun _ => ⟨OrderedMap.erase_insert_of_absent absent,
              (PortIndexes.indexRemove_indexAdd_iff pruned fresh bare unowned).mpr free, rfl,
              Generation.advance_eq_self_iff.mpr exhausted⟩
      · simp only [bindDevice, insertedInto, device, older, newer, if_false]
        refine iff_of_true (fun refused => ?_) (.inl (Generation.not_lt.mp newer))
        cases refused

end Binding

end EngineImpl

/--
In every reachable state, a refused binding leaves the tables as they were
exactly when it is refused before the insertion or its insertion is undone in full.
-/
theorem refused_binding_unchanged_iff (runtime : Runtime) (operations : List Operation)
    (request : PortBindingRequest) (answers : MutationAnswers) :
    ((bindPort runtime (.after runtime operations) request answers).2.accepted = false →
        SameTables (.after runtime operations)
          (bindPort runtime (.after runtime operations) request answers).1) ↔
      ((EngineImpl.after runtime operations).Insertable runtime request
          (EngineImpl.probedRecord runtime (.after runtime operations) request answers) →
        (EngineImpl.after runtime operations).DeviceSettles runtime request
          (EngineImpl.probedRecord runtime (.after runtime operations) request answers)) := by
  by_cases insertable : (EngineImpl.after runtime operations).Insertable runtime request
      (EngineImpl.probedRecord runtime (.after runtime operations) request answers)
  · rw [EngineImpl.inserted_sameTables_iff (EngineImpl.after_pruned runtime operations) insertable]
    exact ⟨fun settles _ => settles, fun settles => settles insertable⟩
  · rw [EngineImpl.bindPort_of_not_insertable insertable]
    exact iff_of_true (fun _ => ⟨rfl, rfl, rfl, rfl⟩) fun inserted => absurd inserted insertable

namespace StaleBinding

def request : PortBindingRequest where
  port := "syn-sw1-p01"
  parentDevice := Fixture.device
  deviceGeneration := .first
  epoch := .first
  attempt := "bind-1"

/-- The device was registered under its second generation. -/
def operations : List Operation :=
  [.registerDevice Fixture.device (.next .first) "operator"]

set_option maxRecDepth 100000 in
/-- The refused binding has moved the engine generation. -/
theorem refused_generation_moved :
    ¬((bindPort Fixture.runtime (.after Fixture.runtime operations) request {}).2.accepted = false →
      SameTables (.after Fixture.runtime operations)
        (bindPort Fixture.runtime (.after Fixture.runtime operations) request {}).1) := by
  intro kept
  have refused : (bindPort Fixture.runtime (.after Fixture.runtime operations) request
      {}).2.accepted = false := by
    decide +kernel
  have moved : (bindPort Fixture.runtime (.after Fixture.runtime operations) request
      {}).1.generation ≠ (EngineImpl.after Fixture.runtime operations).generation := by
    decide +kernel
  exact moved (kept refused).generation

end StaleBinding

end PortFabric
