import PortFabric.Engine.Operation

/-!
# Process lifetimes

The start-up of the coordinator process, and lifetimes of the process over one
container that automatic persistence keeps.
-/

set_option autoImplicit false

namespace PortFabric

open PortFabricEngine

/-- A coordinator that persists automatically to a container path. -/
structure Coordinator where
  runtime : Runtime
  automatic : runtime.config.persistence = .automatic
  located : runtime.config.persistencePath.isEmpty = false

/-- Why the container is not read: the file system or the decoder answers a failure. -/
structure ReadFault where
  outcome : Outcome
  failed : outcome.isOk = false

/-- What reading the container answers. -/
def readContainer : Option ReadFault → Option PersistedState → Except Outcome PersistedState
  | some fault, _ => .error fault.outcome
  | none, none =>
      .error (.failure .persistenceIoFailure
        "the container does not exist at the configured path")
  | none, some state => .ok state

/--
The start of the process: recover the container, if there is one, and begin an
epoch. A container that cannot be read is passed over like one that is missing.
-/
def Coordinator.start (coordinator : Coordinator) (fault : Option ReadFault)
    (disk : Option PersistedState) : Option EngineImpl :=
  let loaded :=
    load coordinator.runtime (.initial coordinator.runtime.config) (readContainer fault disk)
  if !loaded.2.isOk && loaded.2.code ≠ .persistenceIoFailure then
    none
  else
    let begun := beginEpoch loaded.1
    if begun.2.isOk then some begun.1 else none

/--
The operation writes the container. Only a write touches the durability flag, so
an operation that finds the flag set and clears it has written its state.
-/
def EngineImpl.writes (runtime : Runtime) (impl : EngineImpl) (operation : Operation) : Bool :=
  !(({ impl with durabilityDirty := true } : EngineImpl).perform runtime operation).durabilityDirty

/-- The container, the process that runs, and the epochs every lifetime has operated under. -/
structure Deployment where
  disk : Option PersistedState := none
  process : Option (Coordinator × EngineImpl) := none
  /-- The latest lifetime and its latest epoch first. -/
  lifetimes : List (List CoordinatorEpoch) := []
  /-- How often the epoch has moved on since the container was written. -/
  advances : Nat := 0

inductive ProcessEvent where
  /-- The process that runs, if any, stops where it is, and the next one starts. -/
  | start (coordinator : Coordinator) (fault : Option ReadFault)
  | operate (operation : Operation)
  /-- The running process loads its container again. -/
  | reload (fault : Option ReadFault)

namespace Deployment

/-- A container that is found at first was written by an earlier lifetime. -/
def initial (disk : Option PersistedState) : Deployment where
  disk
  lifetimes := disk.toList.map fun state => [state.epoch]

/-- The epoch in use, or the last one that was. -/
def latest (deployment : Deployment) : Option CoordinatorEpoch :=
  deployment.lifetimes.head?.bind List.head?

/-- A container is there, and the start reads it. -/
def reads (deployment : Deployment) (fault : Option ReadFault) : Bool :=
  fault.isNone && deployment.disk.isSome

/-- The running lifetime operates under one more epoch. -/
def operatingUnder (epoch : CoordinatorEpoch) :
    List (List CoordinatorEpoch) → List (List CoordinatorEpoch)
  | [] => [[epoch]]
  | lifetime :: earlier => (epoch :: lifetime) :: earlier

/-- The moves of a start: the load of a container and `begin_epoch`, or this one alone. -/
def startAdvances (deployment : Deployment) (coordinator : Coordinator)
    (fault : Option ReadFault) : Nat :=
  if !deployment.reads fault ∧ deployment.latest = some coordinator.runtime.config.epoch then 1
  else 2

/-- The running process performs an operation and may write its container. -/
def operated (deployment : Deployment) (coordinator : Coordinator) (impl : EngineImpl)
    (operation : Operation) : Deployment :=
  let performed := impl.perform coordinator.runtime operation
  let written := impl.writes coordinator.runtime operation
  { disk :=
      if written then some (performed.gatherState coordinator.runtime.config)
      else deployment.disk
    process := some (coordinator, performed)
    lifetimes := operatingUnder performed.epoch deployment.lifetimes
    advances :=
      if written then 0
      else if performed.epoch = impl.epoch then deployment.advances
      else deployment.advances + 1 }

def step (deployment : Deployment) : ProcessEvent → Deployment
  | .start coordinator fault =>
      match coordinator.start fault deployment.disk with
      | none => { deployment with process := none }
      | some impl =>
          { deployment with
            process := some (coordinator, impl)
            lifetimes := [impl.epoch] :: deployment.lifetimes
            advances := deployment.advances + deployment.startAdvances coordinator fault }
  | .operate operation =>
      match deployment.process with
      | none => deployment
      | some (coordinator, impl) =>
          -- A load reads the container of the deployment: it is the next event.
          if operation.isLoad then deployment
          else deployment.operated coordinator impl operation
  | .reload fault =>
      match deployment.process with
      | none => deployment
      | some (coordinator, impl) =>
          deployment.operated coordinator impl (.load (readContainer fault deployment.disk))

end Deployment

end PortFabric
