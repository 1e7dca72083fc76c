import PortFabric.Generation
import PortFabric.Identifier

/-!
# Authority context

The identity and the expectations every mutation request carries.
-/

set_option autoImplicit false

namespace PortFabric

structure AuthorityContext where
  epoch : CoordinatorEpoch := .null
  publisher : PublisherId := .null
  boot : WorkerBootId := .null
  ownership : PortOwnershipId := .null
  ownershipGeneration : PortOwnershipGeneration := .null
  expectedConfiguration : PortConfigurationGeneration := .null
  expectedCapability : CapabilityBindingGeneration := .null
  expectedTopology : TopologyGeneration := .null
  expectedDevice : DeviceGeneration := .null
  attempt : MutationAttemptId := .null
  deriving DecidableEq

def AuthorityContext.valid (authority : AuthorityContext) : Bool :=
  authority.epoch.valid && authority.publisher.valid && authority.boot.valid &&
    authority.attempt.valid

end PortFabric
