import PortFabric.Configuration
import PortFabric.Ownership

/-!
# Port records

The authoritative record of one governed port and its validation.
-/

set_option autoImplicit false

namespace PortFabric

inductive AppliedOutcome where
  | notAttempted | applied | applyFailed | outcomeUnknown | verified | unsupported
  | illegal (raw : Fin 250)
  deriving DecidableEq, Repr

namespace AppliedOutcome

def isValid : AppliedOutcome → Bool
  | illegal _ => false
  | _ => true

def toText : AppliedOutcome → Text
  | notAttempted => "NOT_ATTEMPTED"
  | applied => "APPLIED"
  | applyFailed => "APPLY_FAILED"
  | outcomeUnknown => "APPLY_OUTCOME_UNKNOWN"
  | verified => "VERIFIED"
  | unsupported => "UNSUPPORTED"
  | illegal _ => "NOT_ATTEMPTED"

end AppliedOutcome

inductive DriftState where
  | unknown | inSync | drifted | revalidationRequired | conflicted
  | illegal (raw : Fin 251)
  deriving DecidableEq, Repr

namespace DriftState

def isValid : DriftState → Bool
  | illegal _ => false
  | _ => true

def toText : DriftState → Text
  | unknown => "UNKNOWN"
  | inSync => "IN_SYNC"
  | drifted => "DRIFTED"
  | revalidationRequired => "REVALIDATION_REQUIRED"
  | conflicted => "CONFLICTED"
  | illegal _ => "UNKNOWN"

end DriftState

structure AppliedEvidence where
  outcome : AppliedOutcome := .notAttempted
  /-- Configuration generation this evidence describes. -/
  generation : PortConfigurationGeneration := .null
  evidenceGeneration : EvidenceGeneration := .null
  source : Text := []
  verified : Bool := false
  deriving DecidableEq

/-- The evidence may be treated as current hardware truth. -/
def AppliedEvidence.currentFor (evidence : AppliedEvidence)
    (expected : PortConfigurationGeneration) : Bool :=
  evidence.verified && expected.valid && evidence.generation = expected

structure GenerationVector where
  configuration : PortConfigurationGeneration := .null
  administrative : AdministrativeGeneration := .null
  ownership : PortOwnershipGeneration := .null
  capability : CapabilityBindingGeneration := .null
  topology : TopologyGeneration := .null
  device : DeviceGeneration := .null
  lifecycle : LifecycleGeneration := .null
  evidence : EvidenceGeneration := .null
  deriving DecidableEq

def GenerationVector.canonicalFields (generations : GenerationVector) : List (Text × Text) :=
  [ (text "configuration", generations.configuration.formatOrEmpty),
    (text "administrative", generations.administrative.formatOrEmpty),
    (text "ownership", generations.ownership.formatOrEmpty),
    (text "capability", generations.capability.formatOrEmpty),
    (text "topology", generations.topology.formatOrEmpty),
    (text "device", generations.device.formatOrEmpty),
    (text "lifecycle", generations.lifecycle.formatOrEmpty),
    (text "evidence", generations.evidence.formatOrEmpty) ]

/-- Identity and result of the last committed mutation of a port. -/
structure LastMutationRecord where
  attempt : MutationAttemptId := .null
  payloadDigest : UInt64 := 0
  resultGeneration : PortConfigurationGeneration := .null
  deriving DecidableEq

def LastMutationRecord.valid (last : LastMutationRecord) : Bool :=
  last.attempt.valid && last.payloadDigest ≠ 0

structure PortRecord where
  port : PortId
  parentDevice : DeviceId
  lifecycle : PortLifecycle := .unconfigured
  configuration : Option PortConfiguration := none
  ownership : Option PortOwnership := none
  capability : CapabilityBinding := {}
  applied : AppliedEvidence := {}
  drift : DriftState := .unknown
  generations : GenerationVector := {}
  provenance : Provenance := {}
  lastMutation : LastMutationRecord := {}
  statusReason : Text := []
  statusDetail : Text := []
  deriving DecidableEq

namespace PortRecord

open Checks

/-- The ownership, when there is one, is complete. -/
def ownershipConsistent (record : PortRecord) : Bool :=
  record.ownership.all PortOwnership.valid

/-- The part of the validation that concerns the committed configuration. -/
def validateConfiguration (record : PortRecord) : Except Text Unit :=
  match record.configuration with
  | some configuration =>
      within configuration.validate id <|
      refuseIf (configuration.port ≠ record.port)
        (text "the configuration is bound to a different port identity") <|
      refuseIf (configuration.parentDevice ≠ record.parentDevice)
        (text "the configuration is bound to a different parent device") <|
      refuseIf (record.generations.configuration.valid &&
          configuration.generation ≠ record.generations.configuration)
        (text "the record generation does not match the configuration generation") <|
      .ok ()
  | none =>
      require (record.lifecycle = .unconfigured || record.lifecycle = .retired ||
          record.lifecycle = .superseded)
        (text "a live lifecycle state requires a committed configuration") <|
      .ok ()

def validate (record : PortRecord) : Except Text Unit :=
  require record.port.valid
    (text "the record has no canonical port identity") <|
  require record.parentDevice.valid
    (text "the record has no parent device identity") <|
  require record.lifecycle.isValid
    (text "the lifecycle state is not a legal value") <|
  require record.drift.isValid
    (text "the drift state is not a legal value") <|
  require record.applied.outcome.isValid
    (text "the applied outcome is not a legal value") <|
  require record.capability.valid
    (text "the capability binding is inconsistent") <|
  require record.ownershipConsistent
    (text "the ownership record is inconsistent") <|
  within record.validateConfiguration id <|
  within (validateText record.statusReason maxNameLength) (text "status reason: " ++ ·) <|
  within (validateText record.statusDetail maxDescriptionLength) (text "status detail: " ++ ·) <|
  .ok ()

end PortRecord

end PortFabric
