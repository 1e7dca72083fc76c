import PortFabric.Limits
import PortFabric.Outcome

/-!
# Explanations

A bounded list of reasons under a summary.
-/

set_option autoImplicit false

namespace PortFabric

/-- The reasons an engine gives about a record. -/
inductive ExplanationCode where
  | accepted | rejectedUnknownPort | lifecycleUnconfigured | lifecycleSuperseded
  | lifecycleRetired | lifecycleRevalidationRequired | lifecycleConflicted | driftObserved
  | appliedEvidenceStale | appliedOutcomeUnknownPending | capabilityGenerationAdvanced
  | topologyGenerationAdvanced | deviceGenerationAdvanced | recoveredFromPersistence
  | ownershipHeld | profileBound | configurationCommitted
  deriving DecidableEq, Repr

def ExplanationCode.toText : ExplanationCode → Text
  | accepted => "ACCEPTED"
  | rejectedUnknownPort => "REJECTED_UNKNOWN_PORT"
  | lifecycleUnconfigured => "LIFECYCLE_UNCONFIGURED"
  | lifecycleSuperseded => "LIFECYCLE_SUPERSEDED"
  | lifecycleRetired => "LIFECYCLE_RETIRED"
  | lifecycleRevalidationRequired => "LIFECYCLE_REVALIDATION_REQUIRED"
  | lifecycleConflicted => "LIFECYCLE_CONFLICTED"
  | driftObserved => "DRIFT_OBSERVED"
  | appliedEvidenceStale => "APPLIED_EVIDENCE_STALE"
  | appliedOutcomeUnknownPending => "APPLIED_OUTCOME_UNKNOWN_PENDING"
  | capabilityGenerationAdvanced => "CAPABILITY_GENERATION_ADVANCED"
  | topologyGenerationAdvanced => "TOPOLOGY_GENERATION_ADVANCED"
  | deviceGenerationAdvanced => "DEVICE_GENERATION_ADVANCED"
  | recoveredFromPersistence => "RECOVERED_FROM_PERSISTENCE"
  | ownershipHeld => "OWNERSHIP_HELD"
  | profileBound => "PROFILE_BOUND"
  | configurationCommitted => "CONFIGURATION_COMMITTED"

structure ExplanationReason where
  code : ExplanationCode
  detail : Text
  deriving DecidableEq

def ExplanationReason.toText (reason : ExplanationReason) : Text :=
  reason.code.toText ++ if reason.detail.isEmpty then [] else text ": " ++ reason.detail

structure Explanation where
  accepted : Bool := false
  outcome : OutcomeCode := .ok
  summary : Text := []
  reasons : List ExplanationReason := []
  deriving DecidableEq

namespace Explanation

/-- Adds a bounded, single-line reason; surplus reasons are ignored. -/
def add (explanation : Explanation) (code : ExplanationCode) (detail : Text) : Explanation :=
  if explanation.reasons.length ≥ maxExplanationReasons then
    explanation
  else
    { explanation with
      reasons := explanation.reasons ++
        [{ code, detail := truncate (singleLine detail) maxDescriptionLength }] }

/-- Adds the reason when it applies. -/
def addIf (explanation : Explanation) (applies : Bool) (code : ExplanationCode) (detail : Text) :
    Explanation :=
  if applies then explanation.add code detail else explanation

def toText (explanation : Explanation) : Text :=
  (if explanation.accepted then text "ACCEPTED" else text "REJECTED") ++ text " [" ++
    explanation.outcome.toText ++ text "]" ++
    (if explanation.summary.isEmpty then [] else text " " ++ explanation.summary) ++
    explanation.reasons.flatMap fun reason => text "\n  " ++ reason.toText

end Explanation

end PortFabric
