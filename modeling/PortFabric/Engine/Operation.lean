import PortFabric.Engine.Binding
import PortFabric.Engine.Recovery
import PortFabric.Library.Runs

/-!
# Sequential runs

The public operations of the engine as one step function, each with everything
the outside answers during the call, and runs of operations.
-/

set_option autoImplicit false

namespace PortFabric

inductive Operation where
  | bindPort (request : PortBindingRequest) (answers : MutationAnswers)
  | mutate (mutation : Mutation) (answers : MutationAnswers)
  | defineProfile (profile : PortProfile)
  | beginEpoch
  | registerPublisher (publisher : PublisherId) (boot : WorkerBootId) (epoch : CoordinatorEpoch)
  | fencePublisher (publisher : PublisherId) (boot : WorkerBootId)
  | registerDevice (device : DeviceId) (generation : DeviceGeneration) (source : Text)
  | setTopologyGeneration (generation : TopologyGeneration)
  | save (store : StoreAnswers)
  | load (container : Except Outcome PersistedState)
  | shutdown

namespace Operation

def isLoad : Operation → Bool
  | load _ => true
  | _ => false

end Operation

namespace EngineImpl

open PortFabricEngine

/-- The state after one operation. -/
def perform (runtime : Runtime) (impl : EngineImpl) : Operation → EngineImpl
  | .bindPort request answers => (bindPort runtime impl request answers).1
  | .mutate mutation answers => (executeMutation runtime mutation answers impl).1
  | .defineProfile profile => (PortFabricEngine.defineProfile impl profile).1
  | .beginEpoch => (PortFabricEngine.beginEpoch impl).1
  | .registerPublisher publisher boot epoch =>
      (PortFabricEngine.registerPublisher impl publisher boot epoch).1
  | .fencePublisher publisher boot => (PortFabricEngine.fencePublisher impl publisher boot).1
  | .registerDevice device generation source =>
      (PortFabricEngine.registerDevice runtime impl device generation source).1
  | .setTopologyGeneration generation =>
      (PortFabricEngine.setTopologyGeneration impl generation).1
  | .save store => (PortFabricEngine.save runtime impl store).1
  | .load container => (PortFabricEngine.load runtime impl container).1
  | .shutdown => PortFabricEngine.shutdown impl

/-- The state after a run of operations on a fresh engine. -/
def after (runtime : Runtime) (operations : List Operation) : EngineImpl :=
  Runs.run (perform runtime) (.initial runtime.config) operations

end EngineImpl

end PortFabric
