import PortFabric.Engine.BindingInterleaving

/-!
# Interleaved gathering

`gather_state` one critical section at a time: the authority tables, the
profiles and the records are read one after the other, between the sections of
everything else.
-/

set_option autoImplicit false

namespace PortFabric

/-- A container being gathered, named by the critical section it enters next. -/
inductive Gathering where
  | authority
  | profiles (gathered : PersistedState)
  | records (gathered : PersistedState)
  | write (gathered : PersistedState)

namespace Gathering

/-- One critical section; the container is complete when the records are read. -/
def advance (config : EngineConfig) (store : StoreAnswers) (impl : EngineImpl) :
    Gathering → EngineImpl × Option Gathering
  | authority =>
      (impl, some (.profiles
        { fabric := config.fabric
          site := config.site
          epoch := impl.epoch
          topology := impl.topology
          publishers := impl.publishers.toList.map Prod.snd
          devices := impl.devices.toList.map Prod.snd }))
  | profiles gathered => (impl, some (.records { gathered with profiles := impl.profiles.list }))
  | records gathered =>
      (impl, some (.write
        { gathered with
          engineGeneration := impl.generation
          records := impl.records.toList.map Prod.snd }))
  | write gathered =>
      ({ impl with durabilityDirty := !(savePersistedState gathered store).isOk }, none)

/-- Advances a gathering that nothing interrupts, at most `fuel` sections. -/
def finish (config : EngineConfig) (store : StoreAnswers) :
    Nat → EngineImpl → Gathering → EngineImpl
  | 0, impl, _ => impl
  | fuel + 1, impl, gathering =>
      match gathering.advance config store impl with
      | (impl, none) => impl
      | (impl, some gathering) => finish config store fuel impl gathering

/-- The sections of a gathering, run without interruption, are the sequential save. -/
theorem finish_eq_save (runtime : Runtime) (store : StoreAnswers) (impl : EngineImpl)
    (path : runtime.config.persistencePath.isEmpty = false) :
    finish runtime.config store 4 impl .authority =
      (PortFabricEngine.save runtime impl store).1 := by
  simp only [PortFabricEngine.save, path, Bool.false_eq_true, if_false]
  rfl

/-- The same sections are those of an automatic persist. -/
theorem finish_eq_persistLockedState (runtime : Runtime) (store : StoreAnswers)
    (impl : EngineImpl) (path : runtime.config.persistencePath.isEmpty = false)
    (automatic : runtime.config.persistence = .automatic) :
    finish runtime.config store 4 impl .authority =
      (impl.persistLockedState runtime store).1 := by
  simp only [EngineImpl.persistLockedState, automatic, path, Bool.false_eq_true, if_false, ne_eq,
    not_true_eq_false]
  rfl

end Gathering

/--
The interleaved system with the containers being gathered. A save and the
persist that ends a mutation or a binding gather alike, each as a gathering of
its own: what the other actions do about durability names no container.
-/
structure GatheringSystem where
  state : BindingSystem
  gatherings : Nat → Option Gathering := fun _ => none

inductive GatheringAction where
  /-- A section of a mutation or of a binding, or another operation. -/
  | act (action : BindingAction)
  | gather (thread : Nat)
  /-- A gathering takes its next critical section. -/
  | advance (thread : Nat) (store : StoreAnswers)

namespace GatheringSystem

abbrev engine (system : GatheringSystem) : EngineImpl := system.state.engine

def initial (runtime : Runtime) : GatheringSystem where
  state := .initial runtime

def withGathering (system : GatheringSystem) (thread : Nat) (gathering : Option Gathering) :
    GatheringSystem :=
  { system with
    gatherings := fun other => if other = thread then gathering else system.gatherings other }

def withEngine (system : GatheringSystem) (engine : EngineImpl) : GatheringSystem :=
  { system with
    state := { system.state with system := { system.state.system with engine } } }

def step (runtime : Runtime) (system : GatheringSystem) : GatheringAction → GatheringSystem
  | .act action => { system with state := system.state.step runtime action }
  | .gather thread =>
      if (system.gatherings thread).isNone && !runtime.config.persistencePath.isEmpty then
        system.withGathering thread (some .authority)
      else
        system
  | .advance thread store =>
      match system.gatherings thread with
      | none => system
      | some gathering =>
          let advanced := gathering.advance runtime.config store system.engine
          (system.withEngine advanced.1).withGathering thread advanced.2

end GatheringSystem

end PortFabric
