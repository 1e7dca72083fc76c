import PortFabric.Lifecycle

/-!
# Administrative state

Administrative intent, and the one place where it is related to the lifecycle.
-/

set_option autoImplicit false

namespace PortFabric

/-- `illegal` is a byte outside the enumeration, which a decoded request can carry. -/
inductive AdministrativeState where
  | unknown | enabled | disabled | draining | maintenance | revalidationRequired
  | illegal (raw : Fin 250)
  deriving DecidableEq, Repr

inductive AdministrativeOp where
  | enable | disable | drain | enterMaintenance | resume | requireRevalidation
  | illegal (raw : Fin 250)
  deriving DecidableEq, Repr

namespace AdministrativeState

def isValid : AdministrativeState → Bool
  | illegal _ => false
  | _ => true

def toText : AdministrativeState → Text
  | unknown => "UNKNOWN"
  | enabled => "ENABLED"
  | disabled => "DISABLED"
  | draining => "DRAINING"
  | maintenance => "MAINTENANCE"
  | revalidationRequired => "REVALIDATION_REQUIRED"
  | illegal _ => "UNKNOWN"

end AdministrativeState

namespace AdministrativeOp

def isValid : AdministrativeOp → Bool
  | illegal _ => false
  | _ => true

def toText : AdministrativeOp → Text
  | enable => "ENABLE"
  | disable => "DISABLE"
  | drain => "DRAIN"
  | enterMaintenance => "ENTER_MAINTENANCE"
  | resume => "RESUME"
  | requireRevalidation => "REQUIRE_REVALIDATION"
  | illegal _ => "UNKNOWN"

end AdministrativeOp

def administrativeTarget : AdministrativeOp → AdministrativeState
  | .enable => .enabled
  | .disable => .disabled
  | .drain => .draining
  | .enterMaintenance => .maintenance
  | .resume => .enabled
  | .requireRevalidation => .revalidationRequired
  | .illegal _ => .unknown

def lifecycleTransitionFor : AdministrativeOp → LifecycleTransition
  | .enable => .activate
  | .disable => .adminDisable
  | .drain => .beginDrain
  | .enterMaintenance => .enterMaintenance
  | .resume => .activate
  | .requireRevalidation => .requireRevalidation
  | .illegal _ => .requireRevalidation

def administrativeTransitionAllowed (source target : AdministrativeState) : Bool :=
  if !source.isValid || !target.isValid then false
  else if source = target then true
  else
    match target with
    | .enabled => source ≠ .unknown
    | .disabled => source ≠ .unknown
    | .draining => source = .enabled || source = .maintenance
    | .maintenance => source = .enabled || source = .draining || source = .disabled
    | .revalidationRequired => true
    | .unknown => false
    | .illegal _ => false

def administrativeStateOf : PortLifecycle → AdministrativeState
  | .configured | .active => .enabled
  | .adminDisabled => .disabled
  | .draining => .draining
  | .maintenance => .maintenance
  | .revalidationRequired => .revalidationRequired
  | .unconfigured | .superseded | .retired | .conflicted => .unknown

end PortFabric
