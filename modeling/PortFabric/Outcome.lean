import PortFabric.Text

/-!
# Outcomes

The precise result codes, and the structured outcome every operation reports.
-/

set_option autoImplicit false

namespace PortFabric

inductive OutcomeCode where
  | ok | idempotent | alreadyCurrent
  | malformedRequest | unknownPort | unknownDevice | unknownProfile | unknownPublisher
  | unknownOwnership | unknownAggregate | wrongEntityClass | duplicateRecord
  | resourceBoundExceeded | invalidText | invalidEnumValue
  | staleDeviceGeneration | staleTopologyGeneration | staleConfigurationGeneration
  | staleCapabilityGeneration | staleWorkerBoot | staleCoordinatorEpoch
  | staleOwnershipGeneration | unauthorizedOwner | ownershipConflict | publisherFenced
  | fencedByRestart
  | unsupportedConfiguration | capabilityUnknown | capabilityUnavailable
  | invalidLifecycleTransition | invalidConfiguration | invalidSpeed | invalidMtu
  | invalidLaneConfiguration | invalidBreakout | invalidProfile | portRetired | portSuperseded
  | revalidationRequired | driftDetected | conflictDetected | transceiverUnknown
  | applyFailed | applyOutcomeUnknown | readbackMismatch | adapterUnavailable
  | persistenceCorruption | persistenceVersionUnsupported | persistenceIoFailure
  | persistenceBoundsExceeded | transportFailure
  | internalError | shuttingDown
  deriving DecidableEq, Repr

namespace OutcomeCode

def toText : OutcomeCode → Text
  | ok => "OK"
  | idempotent => "IDEMPOTENT"
  | alreadyCurrent => "ALREADY_CURRENT"
  | malformedRequest => "MALFORMED_REQUEST"
  | unknownPort => "UNKNOWN_PORT"
  | unknownDevice => "UNKNOWN_DEVICE"
  | unknownProfile => "UNKNOWN_PROFILE"
  | unknownPublisher => "UNKNOWN_PUBLISHER"
  | unknownOwnership => "UNKNOWN_OWNERSHIP"
  | unknownAggregate => "UNKNOWN_AGGREGATE"
  | wrongEntityClass => "WRONG_ENTITY_CLASS"
  | duplicateRecord => "DUPLICATE_RECORD"
  | resourceBoundExceeded => "RESOURCE_BOUND_EXCEEDED"
  | invalidText => "INVALID_TEXT"
  | invalidEnumValue => "INVALID_ENUM_VALUE"
  | staleDeviceGeneration => "STALE_DEVICE_GENERATION"
  | staleTopologyGeneration => "STALE_TOPOLOGY_GENERATION"
  | staleConfigurationGeneration => "STALE_CONFIGURATION_GENERATION"
  | staleCapabilityGeneration => "STALE_CAPABILITY_GENERATION"
  | staleWorkerBoot => "STALE_WORKER_BOOT"
  | staleCoordinatorEpoch => "STALE_COORDINATOR_EPOCH"
  | staleOwnershipGeneration => "STALE_OWNERSHIP_GENERATION"
  | unauthorizedOwner => "UNAUTHORIZED_OWNER"
  | ownershipConflict => "OWNERSHIP_CONFLICT"
  | publisherFenced => "PUBLISHER_FENCED"
  | fencedByRestart => "FENCED_BY_RESTART"
  | unsupportedConfiguration => "UNSUPPORTED_CONFIGURATION"
  | capabilityUnknown => "CAPABILITY_UNKNOWN"
  | capabilityUnavailable => "CAPABILITY_UNAVAILABLE"
  | invalidLifecycleTransition => "INVALID_LIFECYCLE_TRANSITION"
  | invalidConfiguration => "INVALID_CONFIGURATION"
  | invalidSpeed => "INVALID_SPEED"
  | invalidMtu => "INVALID_MTU"
  | invalidLaneConfiguration => "INVALID_LANE_CONFIGURATION"
  | invalidBreakout => "INVALID_BREAKOUT"
  | invalidProfile => "INVALID_PROFILE"
  | portRetired => "PORT_RETIRED"
  | portSuperseded => "PORT_SUPERSEDED"
  | revalidationRequired => "REVALIDATION_REQUIRED"
  | driftDetected => "DRIFT_DETECTED"
  | conflictDetected => "CONFLICT_DETECTED"
  | transceiverUnknown => "TRANSCEIVER_UNKNOWN"
  | applyFailed => "APPLY_FAILED"
  | applyOutcomeUnknown => "APPLY_OUTCOME_UNKNOWN"
  | readbackMismatch => "READBACK_MISMATCH"
  | adapterUnavailable => "ADAPTER_UNAVAILABLE"
  | persistenceCorruption => "PERSISTENCE_CORRUPTION"
  | persistenceVersionUnsupported => "PERSISTENCE_VERSION_UNSUPPORTED"
  | persistenceIoFailure => "PERSISTENCE_IO_FAILURE"
  | persistenceBoundsExceeded => "PERSISTENCE_BOUNDS_EXCEEDED"
  | transportFailure => "TRANSPORT_FAILURE"
  | internalError => "INTERNAL_ERROR"
  | shuttingDown => "SHUTTING_DOWN"

def isAccepted : OutcomeCode → Bool
  | ok | idempotent | alreadyCurrent => true
  | _ => false

def advancesGeneration (code : OutcomeCode) : Bool :=
  code = ok

end OutcomeCode

structure Outcome where
  code : OutcomeCode := .ok
  message : Text := []
  details : List (Text × Text) := []
  deriving DecidableEq

namespace Outcome

def success (message : Text := []) : Outcome := { message }

def idempotent (message : Text) : Outcome := { code := .idempotent, message }

def current (message : Text) : Outcome := { code := .alreadyCurrent, message }

def failure (code : OutcomeCode) (message : Text) : Outcome := { code, message }

def isOk (outcome : Outcome) : Bool := outcome.code = .ok

def accepted (outcome : Outcome) : Bool := outcome.code.isAccepted

/-- Attaches a bounded, single-line detail; surplus details are ignored. -/
def withDetail (outcome : Outcome) (key value : Text) : Outcome :=
  if outcome.details.length ≥ maxOutcomeDetails then
    outcome
  else
    { outcome with
      details := outcome.details ++
        [(truncate (singleLine key) maxNameLength,
          truncate (singleLine value) maxDescriptionLength)] }

def toText (outcome : Outcome) : Text :=
  outcome.details.foldl (fun out detail => out ++ text " " ++ detail.1 ++ text "=" ++ detail.2)
    (outcome.code.toText ++ text ": " ++
      if outcome.message.isEmpty then text "no detail" else outcome.message)

@[simp] theorem withDetail_code (outcome : Outcome) (key value : Text) :
    (outcome.withDetail key value).code = outcome.code := by
  unfold withDetail
  split <;> rfl

/-- What `Outcome::with` sees to, the only way to attach a detail. -/
structure Detailed (outcome : Outcome) : Prop where
  few : outcome.details.length ≤ maxOutcomeDetails
  bounded : ∀ detail ∈ outcome.details,
    detail.1.length ≤ maxNameLength ∧ detail.2.length ≤ maxDescriptionLength

theorem Detailed.bare {outcome : Outcome} (bare : outcome.details = []) :
    outcome.Detailed := by
  constructor
  · rw [bare]
    exact Nat.zero_le _
  · rw [bare]
    exact List.forall_mem_nil _

theorem Detailed.withDetail {outcome : Outcome} (detailed : outcome.Detailed)
    (key value : Text) : (outcome.withDetail key value).Detailed := by
  unfold Outcome.withDetail
  split
  · exact detailed
  · next room =>
      constructor
      · simp only [List.length_append, List.length_singleton]
        omega
      · intro detail member
        obtain earlier | added := List.mem_append.mp member
        · exact detailed.bounded detail earlier
        · obtain rfl := List.mem_singleton.mp added
          exact ⟨length_truncate_le .., length_truncate_le ..⟩

@[simp] theorem isOk_iff {outcome : Outcome} : outcome.isOk = true ↔ outcome.code = .ok := by
  simp [isOk]

end Outcome

end PortFabric
