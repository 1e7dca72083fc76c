import PortFabric.Generation
import PortFabric.Identifier

/-!
# Control ownership

Ownership is mutation authority over one port, bound to a process incarnation.
-/

set_option autoImplicit false

namespace PortFabric

inductive PortOwnerKind where
  | unknown | switchAgent | hostAgent | networkController | administrativeControlPlane
  | delegatedSubsystem
  | illegal (raw : Fin 250)
  deriving DecidableEq, Repr

namespace PortOwnerKind

def isValid : PortOwnerKind → Bool
  | illegal _ => false
  | _ => true

def toText : PortOwnerKind → Text
  | unknown => "UNKNOWN"
  | switchAgent => "SWITCH_AGENT"
  | hostAgent => "HOST_AGENT"
  | networkController => "NETWORK_CONTROLLER"
  | administrativeControlPlane => "ADMINISTRATIVE_CONTROL_PLANE"
  | delegatedSubsystem => "DELEGATED_SUBSYSTEM"
  | illegal _ => "UNKNOWN"

end PortOwnerKind

structure PortOwnership where
  id : PortOwnershipId
  kind : PortOwnerKind
  owner : OwnerId
  generation : PortOwnershipGeneration
  publisher : PublisherId
  boot : WorkerBootId
  epoch : CoordinatorEpoch
  exclusive : Bool
  deriving DecidableEq

namespace PortOwnership

def valid (ownership : PortOwnership) : Bool :=
  ownership.id.valid && ownership.kind.isValid && ownership.owner.valid &&
    ownership.generation.valid && ownership.publisher.valid && ownership.boot.valid &&
    ownership.epoch.valid

/-- The given process incarnation holds this ownership. -/
def heldBy (ownership : PortOwnership) (publisher : PublisherId) (boot : WorkerBootId)
    (epoch : CoordinatorEpoch) : Bool :=
  ownership.valid && ownership.publisher = publisher && ownership.boot = boot &&
    ownership.epoch = epoch

def toText (ownership : PortOwnership) : Text :=
  if !ownership.valid then
    "unowned"
  else
    ownership.kind.toText ++ text ":" ++ ownership.owner.value ++ text "#" ++
      ownership.generation.format ++ text " publisher=" ++ ownership.publisher.value ++
      text " boot=" ++ ownership.boot.value ++ text " epoch=" ++ ownership.epoch.format ++
      if ownership.exclusive then text " exclusive" else text " shared"

end PortOwnership

end PortFabric
