import PortFabric.Engine.LockingProperties
import PortFabric.Library.DrivenPrograms
import PortFabric.Synthetic

/-!
# Synthetic loop

The engine on a synthetic fabric: its calls reach the inventory and the adapter
of the synthetic devices, whose state outlasts the call.
-/

set_option autoImplicit false

namespace PortFabric

open LockPrograms

/-- `SyntheticCapabilityProvider::current`. -/
def SyntheticFabric.current (fabric : SyntheticFabric) (port : PortId) : ProviderAnswer :=
  match fabric.bindingFor port with
  | none => { error := "the synthetic fabric does not model this port" }
  | some binding => { binding := some binding }

structure SyntheticBackend where
  fabric : SyntheticFabric
  adapter : SyntheticAdapter := {}

namespace SyntheticBackend

/-- The configuration that the device of the port holds. -/
def held (backend : SyntheticBackend) (port : PortId) : Option PortConfiguration :=
  backend.adapter.observed[port]?

/-- What the provider, the adapter and the container answer to a call of the engine. -/
def respond (store : StoreAnswers) (container : Except Outcome PersistedState) :
    (call : EngineCall) → SyntheticBackend → SyntheticBackend × call.Answer
  | .providerCurrent port, backend => (backend, backend.fabric.current port)
  | .adapterApply port configuration, backend =>
      let applied := backend.adapter.apply backend.fabric port configuration
      ({ backend with adapter := applied.1 }, applied.2)
  | .adapterReadback port, backend =>
      let read := backend.adapter.readback backend.fabric port
      ({ backend with adapter := read.1 }, read.2.toAdapterReadback)
  | .adapterLabel, backend => (backend, ())
  | .storeSave _, backend => (backend, store)
  | .storeLoad, backend => (backend, container)

end SyntheticBackend

structure SyntheticLoop where
  engine : EngineImpl
  backend : SyntheticBackend

inductive SyntheticEvent where
  /-- Of the answers an operation carries only those of its container count. -/
  | operate (operation : Operation)
  | change (made : SyntheticChange)

namespace SyntheticLoop

def initial (runtime : Runtime) (name : Text) : SyntheticLoop where
  engine := .initial runtime.config
  backend := { fabric := { name } }

def step (runtime : Runtime) (loop : SyntheticLoop) : SyntheticEvent → SyntheticLoop
  | .operate operation =>
      let answers := operation.answers
      let driven := (operation.program runtime).drive
        (SyntheticBackend.respond answers.store answers.container) loop.engine loop.backend
      { engine := driven.1.1, backend := driven.1.2 }
  | .change made =>
      { loop with
        backend := { loop.backend with fabric := loop.backend.fabric.change made } }

end SyntheticLoop

end PortFabric
