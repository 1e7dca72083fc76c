import PortFabric.Text

/-!
# Port lifecycle

The lifecycle states, the requested transitions and their total evaluation.
-/

set_option autoImplicit false

namespace PortFabric

inductive PortLifecycle where
  | unconfigured | configured | active | adminDisabled | draining | maintenance
  | revalidationRequired | superseded | retired | conflicted
  deriving DecidableEq, Repr

inductive LifecycleTransition where
  | configure | activate | adminDisable | adminEnable | beginDrain | completeDrain
  | enterMaintenance | exitMaintenance | requireRevalidation | supersede | retire | conflict
  | reconcile
  deriving DecidableEq, Repr

namespace PortLifecycle

/-- A record only ever holds a declared state. -/
def isValid : PortLifecycle → Bool := fun _ => true

def isLive : PortLifecycle → Bool
  | configured | active | adminDisabled | draining | maintenance => true
  | unconfigured | revalidationRequired | superseded | retired | conflicted => false

def isTerminal (state : PortLifecycle) : Bool := state = retired

def isMutable (state : PortLifecycle) : Bool := state.isLive || state = unconfigured

def requiresReconciliation (state : PortLifecycle) : Bool :=
  state = revalidationRequired || state = superseded || state = conflicted

def toText : PortLifecycle → Text
  | unconfigured => "UNCONFIGURED"
  | configured => "CONFIGURED"
  | active => "ACTIVE"
  | adminDisabled => "ADMIN_DISABLED"
  | draining => "DRAINING"
  | maintenance => "MAINTENANCE"
  | revalidationRequired => "REVALIDATION_REQUIRED"
  | superseded => "SUPERSEDED"
  | retired => "RETIRED"
  | conflicted => "CONFLICTED"

end PortLifecycle

structure TransitionEvaluation where
  allowed : Bool
  /-- The resulting state when allowed, and the unchanged state otherwise. -/
  result : PortLifecycle
  reason : Text
  deriving DecidableEq

namespace TransitionEvaluation

def reject (current : PortLifecycle) (reason : Text) : TransitionEvaluation :=
  ⟨false, current, reason⟩

def allow (result : PortLifecycle) : TransitionEvaluation := ⟨true, result, "OK"⟩

end TransitionEvaluation

open TransitionEvaluation in
def evaluateTransition (current : PortLifecycle) (transition : LifecycleTransition) :
    TransitionEvaluation :=
  if current = .retired then
    reject current "TERMINAL_LIFECYCLE"
  else
    match transition with
    | .configure =>
        if current = .unconfigured then allow .configured
        else reject current "CONFIGURATION_ALREADY_EXISTS"
    | .activate =>
        if current.isLive then allow .active
        else reject current "ACTIVATION_REQUIRES_CONFIGURATION"
    | .adminDisable =>
        if current.isLive then allow .adminDisabled
        else reject current "ADMIN_DISABLE_REQUIRES_LIVE_CONFIGURATION"
    | .adminEnable =>
        if current = .adminDisabled then allow .configured
        else reject current "ENABLE_REQUIRES_DISABLED_STATE"
    | .beginDrain =>
        if current.isLive then allow .draining
        else reject current "DRAIN_REQUIRES_LIVE_CONFIGURATION"
    | .completeDrain =>
        if current = .draining then allow .maintenance
        else reject current "DRAIN_COMPLETION_REQUIRES_DRAINING_STATE"
    | .enterMaintenance =>
        if current.isLive then allow .maintenance
        else reject current "MAINTENANCE_REQUIRES_LIVE_CONFIGURATION"
    | .exitMaintenance =>
        if current = .maintenance ∨ current = .draining then allow .configured
        else reject current "EXIT_MAINTENANCE_REQUIRES_MAINTENANCE_STATE"
    | .requireRevalidation =>
        if current.isLive ∨ current = .unconfigured ∨ current = .revalidationRequired then
          allow .revalidationRequired
        else reject current "REVALIDATION_NOT_APPLICABLE"
    | .supersede =>
        if current = .superseded then reject current "ALREADY_SUPERSEDED"
        else allow .superseded
    | .retire => allow .retired
    | .conflict =>
        if current = .conflicted then reject current "ALREADY_CONFLICTED"
        else allow .conflicted
    | .reconcile =>
        if current.requiresReconciliation then allow .configured
        else reject current "RECONCILIATION_NOT_REQUIRED"

theorem revalidation_of_result {current : PortLifecycle} {transition : LifecycleTransition}
    (allowed : (evaluateTransition current transition).allowed = true)
    (fenced : (evaluateTransition current transition).result = .revalidationRequired) :
    transition = .requireRevalidation := by
  cases current <;> cases transition <;> revert allowed fenced <;> decide

/-- No fencing transition leaves a port live. -/
theorem fence_not_live {current : PortLifecycle} {transition : LifecycleTransition}
    (fencing : transition = .retire ∨ transition = .supersede ∨ transition = .conflict)
    (allowed : (evaluateTransition current transition).allowed = true) :
    (evaluateTransition current transition).result.isLive = false := by
  rcases fencing with rfl | rfl | rfl <;> cases current <;> revert allowed <;> decide

end PortFabric
