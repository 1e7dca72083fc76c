import PortFabric.Engine.Request

/-!
# Mutation plans

A builder turns the observed record and the request into the record proposed for
commit, or rejects the request. One builder for each kind of mutation.
-/

set_option autoImplicit false

namespace PortFabric

/-- The counters and the attempt a commit compares with the current record. -/
structure ExpectedState where
  configuration : PortConfigurationGeneration
  lifecycle : LifecycleGeneration
  administrative : AdministrativeGeneration
  ownership : PortOwnershipGeneration
  evidence : EvidenceGeneration
  lastAttempt : MutationAttemptId
  deriving DecidableEq

namespace ExpectedState

/-- `capture_expected`: the expectation that exactly the given record meets. -/
def capture (record : PortRecord) : ExpectedState where
  configuration := record.generations.configuration
  lifecycle := record.generations.lifecycle
  administrative := record.generations.administrative
  ownership := record.generations.ownership
  evidence := record.generations.evidence
  lastAttempt := record.lastMutation.attempt

def matchesRecord (expected : ExpectedState) (record : PortRecord) : Bool :=
  record.generations.configuration = expected.configuration &&
    record.generations.lifecycle = expected.lifecycle &&
    record.generations.administrative = expected.administrative &&
    record.generations.ownership = expected.ownership &&
    record.generations.evidence = expected.evidence &&
    record.lastMutation.attempt = expected.lastAttempt

def toText (expected : ExpectedState) : Text :=
  text "configuration=" ++ expected.configuration.formatOrNone ++
    text " lifecycle=" ++ expected.lifecycle.formatOrNone ++
    text " administrative=" ++ expected.administrative.formatOrNone ++
    text " ownership=" ++ expected.ownership.formatOrNone ++
    text " evidence=" ++ expected.evidence.formatOrNone ++
    text " last_attempt=" ++
      if expected.lastAttempt.valid then expected.lastAttempt.value else text "none"

theorem matchesRecord_iff {expected : ExpectedState} {record : PortRecord} :
    expected.matchesRecord record = true ↔ expected = capture record := by
  cases expected
  simp only [matchesRecord, capture, Bool.and_eq_true, decide_eq_true_eq, mk.injEq, and_assoc]
  constructor <;> rintro ⟨h₁, h₂, h₃, h₄, h₅, h₆⟩ <;> simp [h₁, h₂, h₃, h₄, h₅, h₆]

end ExpectedState

structure MutationBuildInput where
  current : PortRecord
  topology : TopologyGeneration
  parentDeviceGeneration : Option DeviceGeneration
  capability : CapabilityBinding
  profiles : ProfileRegistry

structure MutationPlan where
  expected : ExpectedState
  /-- Evidence the plan is validated against. -/
  capability : CapabilityBinding := {}
  /-- Proposed record after the mutation. -/
  next : PortRecord
  requiresCapabilityValidation : Bool := false
  requiresApply : Bool := false
  applyConfiguration : PortConfiguration := {}

inductive PlanFailure where
  | rejected (code : OutcomeCode) (detail : Text)
  /-- The parent device generation was read although it is absent. -/
  | undefinedBehaviour
  deriving DecidableEq

abbrev Planning := Except PlanFailure

def reject {α : Type} (code : OutcomeCode) (detail : Text) : Planning α :=
  .error (.rejected code detail)

def rejectIf (condition : Bool) (code : OutcomeCode) (detail : Text) : Planning Unit :=
  if condition then reject code detail else .ok ()

def demand {α : Type} (value : Option α) (code : OutcomeCode) (detail : Text) : Planning α :=
  match value with
  | some value => .ok value
  | none => reject code detail

def rejectInvalid (check : Except Text Unit) (code : OutcomeCode) : Planning Unit :=
  match check with
  | .ok () => .ok ()
  | .error error => reject code error

/-- `*input.parent_device_generation`: dereferenced without a test. -/
def dereference {α : Type} (value : Option α) : Planning α :=
  match value with
  | some value => .ok value
  | none => .error .undefinedBehaviour

def makeProvenance (envelope : MutationEnvelope) (fallback : ProvenanceKind) : Provenance where
  kind := if envelope.provenanceKind = .unknown then fallback else envelope.provenanceKind
  source := envelope.provenanceSource
  publisher := envelope.authority.publisher
  boot := envelope.authority.boot
  epoch := envelope.authority.epoch
  attempt := envelope.authority.attempt

namespace PortRecord

def advanceLifecycleGeneration (record : PortRecord) : PortRecord :=
  { record with
    generations :=
      { record.generations with lifecycle := record.generations.lifecycle.advance } }

def advanceAdministrativeGeneration (record : PortRecord) : PortRecord :=
  { record with
    generations :=
      { record.generations with administrative := record.generations.administrative.advance } }

def advanceConfigurationGeneration (record : PortRecord) : PortRecord :=
  { record with
    generations :=
      { record.generations with configuration := record.generations.configuration.advance } }

def advanceOwnershipGeneration (record : PortRecord) : PortRecord :=
  { record with
    generations :=
      { record.generations with ownership := record.generations.ownership.advance } }

def advanceEvidenceGeneration (record : PortRecord) : PortRecord :=
  { record with
    generations :=
      { record.generations with evidence := record.generations.evidence.advance } }

end PortRecord

def rejectionForFencedState : PortLifecycle → OutcomeCode
  | .retired => .portRetired
  | .superseded => .portSuperseded
  | .revalidationRequired => .revalidationRequired
  | .conflicted => .conflictDetected
  | _ => .invalidLifecycleTransition

def configurationPlan (input : MutationBuildInput) (next : PortRecord)
    (configuration : PortConfiguration) : MutationPlan where
  expected := .capture input.current
  capability := input.capability
  next
  requiresCapabilityValidation := true
  requiresApply := true
  applyConfiguration := configuration

def ProfileBinding.defined (binding : ProfileBinding) (profiles : ProfileRegistry) : Bool :=
  !binding.bound || (profiles.get binding.id binding.generation).isSome

def PortRecord.configured (current : PortRecord) (configuration : PortConfiguration) :
    PortRecord :=
  let base : PortRecord :=
    { current with
      configuration := some configuration
      lifecycle := .configured
      statusReason := "CONFIGURED"
      statusDetail := []
      drift := .unknown
      applied := { generation := configuration.generation } }
  base.advanceConfigurationGeneration
    |>.advanceAdministrativeGeneration
    |>.advanceLifecycleGeneration

def PortRecord.reconfigured (current : PortRecord) (configuration : PortConfiguration)
    (reason detail : Text) : PortRecord :=
  let advanced := current.advanceConfigurationGeneration
  let generation := advanced.generations.configuration
  { advanced with
    configuration := some { configuration with generation }
    statusReason := reason
    statusDetail := detail
    applied := { generation }
    : PortRecord }.advanceLifecycleGeneration

/-- The identity of the first configuration record of a port. -/
def configurationRecordFor (current : PortRecord) (requested : PortConfigurationId) :
    PortConfigurationId :=
  if requested.valid then requested
  else .fromValidated (composeIdentifier "cfg" current.port.value 1)

def buildConfigure (input : MutationBuildInput) (request : ConfigureRequest) :
    Planning MutationPlan := do
  let current := input.current
  rejectIf (current.lifecycle ≠ .unconfigured) (rejectionForFencedState current.lifecycle)
    "the port already carries a committed configuration generation"
  let deviceGeneration ← demand input.parentDeviceGeneration .unknownDevice
    "the parent device generation is not recorded by this runtime"
  rejectIf (!input.capability.present) .capabilityUnavailable
    "no capability evidence is available for this port"
  rejectIf (request.configuration.port.valid && request.configuration.port ≠ current.port)
    .wrongEntityClass "the configuration addresses a different port identity"
  rejectIf (request.configuration.parentDevice.valid &&
      request.configuration.parentDevice ≠ current.parentDevice)
    .wrongEntityClass "the configuration names a different parent device"
  let record := configurationRecordFor current request.configuration.record
  rejectIf (!record.valid) .malformedRequest "the configuration record identity is malformed"
  let administrative :=
    if request.configuration.administrative = .unknown then .enabled
    else request.configuration.administrative
  rejectIf (administrative = .revalidationRequired) .invalidConfiguration
    "a first configuration generation cannot be committed in REVALIDATION_REQUIRED state"
  rejectIf (!request.configuration.profile.defined input.profiles) .unknownProfile
    "the configuration binds a profile generation that is not defined"
  let configuration :=
    { request.configuration with
      port := current.port
      parentDevice := current.parentDevice
      deviceGeneration
      topologyGeneration := input.topology
      generation := .first
      record
      administrative
      capabilityGeneration := input.capability.generation
      evidenceGeneration := current.generations.evidence
      provenance := makeProvenance request.envelope .operator }
  rejectInvalid configuration.validate .invalidConfiguration
  return configurationPlan input (current.configured configuration) configuration

def buildReconfigure (input : MutationBuildInput) (request : ReconfigureRequest) :
    Planning MutationPlan := do
  let current := input.current
  let committed ← demand current.configuration .invalidLifecycleTransition
    "the port has no committed configuration generation to replace"
  rejectIf (!current.lifecycle.isLive) (rejectionForFencedState current.lifecycle)
    "the port is fenced and must be reconciled before further configuration"
  rejectIf (!input.capability.present) .capabilityUnavailable
    "no capability evidence is available for this port"
  rejectIf (request.configuration.port.valid && request.configuration.port ≠ current.port)
    .wrongEntityClass "the configuration addresses a different port identity"
  let deviceGeneration ← dereference input.parentDeviceGeneration
  let administrative :=
    if request.configuration.administrative = .unknown then committed.administrative
    else request.configuration.administrative
  rejectIf (administrative ≠ committed.administrative) .invalidConfiguration
    ("administrative state is changed through the administrative operation, not through " ++
      "reconfiguration" : String)
  rejectIf (!request.configuration.profile.defined input.profiles) .unknownProfile
    "the configuration binds a profile generation that is not defined"
  let configuration :=
    { request.configuration with
      port := current.port
      parentDevice := current.parentDevice
      deviceGeneration
      topologyGeneration := input.topology
      record := committed.record
      generation := current.generations.configuration
      administrative
      capabilityGeneration := input.capability.generation
      evidenceGeneration := current.generations.evidence
      provenance := makeProvenance request.envelope .operator }
  rejectInvalid configuration.validate .invalidConfiguration
  rejectIf (configurationSemanticallyEqual committed configuration &&
      configuration.profile = committed.profile) .alreadyCurrent
    "the submitted configuration is semantically identical to the committed generation"
  let next := current.reconfigured configuration "RECONFIGURED" []
  return configurationPlan input next
    { configuration with generation := next.generations.configuration }

def PortRecord.administered (current : PortRecord) (configuration : PortConfiguration)
    (lifecycle : PortLifecycle) (op : AdministrativeOp) : PortRecord :=
  { current with
    configuration := some configuration
    lifecycle
    statusReason := text "ADMINISTRATIVE_" ++ op.toText
    statusDetail := []
    drift :=
      if configuration.administrative = .revalidationRequired then .revalidationRequired
      else current.drift
    : PortRecord }.advanceAdministrativeGeneration.advanceLifecycleGeneration

def buildAdministrative (input : MutationBuildInput) (request : AdministrativeRequest) :
    Planning MutationPlan := do
  let current := input.current
  rejectIf (!request.op.isValid) .malformedRequest
    "the administrative operation is not a legal value"
  let committed ← demand current.configuration .invalidLifecycleTransition
    "administrative state requires a committed configuration generation"
  rejectIf (!current.lifecycle.isLive) (rejectionForFencedState current.lifecycle)
    "the port is fenced and must be reconciled before its administrative state changes"
  let evaluation := evaluateTransition current.lifecycle (lifecycleTransitionFor request.op)
  rejectIf (!evaluation.allowed) .invalidLifecycleTransition
    (text "the lifecycle transition is not defined: " ++ evaluation.reason)
  let target := administrativeTarget request.op
  rejectIf (committed.administrative = target && current.lifecycle = evaluation.result)
    .alreadyCurrent "the requested administrative state already holds"
  let configuration :=
    { committed with
      administrative := target
      provenance := makeProvenance request.envelope .operator }
  return {
    expected := .capture current
    next := current.administered configuration evaluation.result request.op
    requiresApply := request.op ≠ .requireRevalidation
    applyConfiguration := configuration }

/-- The configuration with the requested profile applied, or with its profile released. -/
def assignedProfile (input : MutationBuildInput) (request : ProfileRequest)
    (committed : PortConfiguration) : Planning PortConfiguration :=
  if request.release then do
    rejectIf (!committed.profile.bound) .alreadyCurrent "no profile is bound to this port"
    return { committed with profile := {} }
  else do
    let profile ← demand (input.profiles.get request.profile request.generation) .unknownProfile
      "the requested profile generation is not defined"
    return { applyProfile profile.configuration committed with
      profile := { bound := true, id := request.profile, generation := request.generation } }

def buildAssignProfile (input : MutationBuildInput) (request : ProfileRequest) :
    Planning MutationPlan := do
  let current := input.current
  let committed ← demand current.configuration .invalidLifecycleTransition
    "a profile can only be assigned to a configured port"
  rejectIf (!current.lifecycle.isLive) (rejectionForFencedState current.lifecycle)
    "the port is fenced and must be reconciled before profiles are assigned"
  let assigned ← assignedProfile input request committed
  let deviceGeneration ← dereference input.parentDeviceGeneration
  let configuration :=
    { assigned with
      port := current.port
      parentDevice := current.parentDevice
      deviceGeneration
      topologyGeneration := input.topology
      capabilityGeneration :=
        if input.capability.present then input.capability.generation
        else current.generations.capability
      provenance := makeProvenance request.envelope .operator }
  rejectInvalid configuration.validate .invalidProfile
  rejectIf (configurationSemanticallyEqual committed configuration) .alreadyCurrent
    "the profile assignment does not change the committed configuration"
  let next := current.reconfigured configuration
    (if request.release then "PROFILE_RELEASED" else "PROFILE_ASSIGNED") []
  return configurationPlan input next
    { configuration with generation := next.generations.configuration }

/-- The committed configuration re-examined under fresh evidence. -/
def PortRecord.reexamined (record : PortRecord) (binding : CapabilityBinding) : PortRecord :=
  match record.configuration with
  | none => record
  | some configuration =>
      match validateAgainstCapabilities configuration binding with
      | .ok () => { record with drift := .unknown }
      | .error rejection =>
          -- Assigned without consulting the transition table.
          { record with
            lifecycle := .revalidationRequired
            drift := .revalidationRequired
            statusReason := "CAPABILITY_INVALIDATED"
            statusDetail := rejection.reason ++ text ": " ++ rejection.detail
            : PortRecord }.advanceLifecycleGeneration

def PortRecord.withEvidence (record : PortRecord) (binding : CapabilityBinding) : PortRecord :=
  { record with
    capability := binding
    generations :=
      { record.generations with
        capability := binding.generation
        evidence := binding.evidenceGeneration }
    statusReason := "CAPABILITY_BOUND"
    statusDetail := [] }

def buildBindCapabilities (input : MutationBuildInput) (request : CapabilityRequest) :
    Planning MutationPlan := do
  let current := input.current
  let binding := request.binding
  let bound := current.capability
  let identical : Bool :=
    digestBytes binding.capabilities.toText = digestBytes bound.capabilities.toText
  rejectIf (!binding.present || !binding.generation.valid || !binding.evidenceGeneration.valid)
    .malformedRequest
    ("the capability binding is incomplete (generation and evidence generation are required)"
      : String)
  rejectInvalid binding.capabilities.validate .capabilityUnavailable
  rejectIf (bound.present && binding.generation < bound.generation) .staleCapabilityGeneration
    "the supplied capability generation is older than the bound generation"
  rejectIf (bound.present && binding.generation = bound.generation && identical) .alreadyCurrent
    "the capability generation is already bound with identical evidence"
  rejectIf (bound.present && binding.generation = bound.generation) .conflictDetected
    "the capability generation is already bound with different evidence"
  return {
    expected := .capture current
    next := (current.withEvidence binding).reexamined binding }

def PortRecord.reconciled (current : PortRecord) (configuration : PortConfiguration)
    (detail : Text) : PortRecord :=
  -- Assigned without consulting the transition table.
  { current with lifecycle := .configured, drift := .unknown : PortRecord }.reconfigured
    { configuration with evidenceGeneration := current.generations.evidence } "RECONCILED" detail

def buildReconcile (input : MutationBuildInput) (request : ReconcileRequest) :
    Planning MutationPlan := do
  let current := input.current
  let committed ← demand current.configuration .invalidLifecycleTransition
    "there is no configuration generation to reconcile"
  let deviceGeneration ← demand input.parentDeviceGeneration .unknownDevice
    "the parent device generation is not recorded by this runtime"
  rejectIf (!input.capability.present) .capabilityUnavailable
    "no capability evidence is available for this port"
  let configuration :=
    { committed with
      deviceGeneration
      topologyGeneration := input.topology
      capabilityGeneration := input.capability.generation
      provenance := makeProvenance request.envelope .reconciliation }
  rejectIf (!configuration.profile.defined input.profiles) .unknownProfile
    "the bound profile generation is no longer defined"
  rejectInvalid configuration.validate .invalidConfiguration
  let rebinding : Bool :=
    configuration.deviceGeneration ≠ committed.deviceGeneration ||
      configuration.topologyGeneration ≠ committed.topologyGeneration ||
      configuration.capabilityGeneration ≠ committed.capabilityGeneration
  rejectIf (!current.lifecycle.requiresReconciliation && current.drift ≠ .drifted &&
      current.drift ≠ .revalidationRequired && !rebinding) .alreadyCurrent
    "the port is already bound to the current generations"
  let next := current.reconciled configuration request.detail
  return configurationPlan input next
    { configuration with
      generation := next.generations.configuration
      evidenceGeneration := current.generations.evidence }

def PortRecord.withoutOwnership (record : PortRecord) : PortRecord :=
  match record.ownership with
  | none => record
  | some _ => { record.advanceOwnershipGeneration with ownership := none }

def PortRecord.fenced (current : PortRecord) (lifecycle : PortLifecycle) (reason detail : Text) :
    PortRecord :=
  { current with
    lifecycle
    statusReason := reason
    statusDetail := detail
    applied := { current.applied with verified := false }
    : PortRecord }.advanceLifecycleGeneration

def buildFence (input : MutationBuildInput) (request : FenceRequest) (retire : Bool) :
    Planning MutationPlan := do
  let current := input.current
  let evaluation :=
    evaluateTransition current.lifecycle (if retire then .retire else .supersede)
  rejectIf (!evaluation.allowed && evaluation.reason = text "ALREADY_SUPERSEDED") .alreadyCurrent
    "the port configuration is already superseded"
  rejectIf (!evaluation.allowed) (rejectionForFencedState current.lifecycle)
    (text "the lifecycle transition is not defined: " ++ evaluation.reason)
  let next := current.fenced evaluation.result (if retire then "RETIRED" else "SUPERSEDED")
    request.detail
  return {
    expected := .capture current
    next := if retire then next.withoutOwnership else next }

/-- A transfer names the process incarnation that receives the port. -/
def OwnershipRequest.delegates (request : OwnershipRequest) : Bool :=
  request.delegatePublisher.valid || request.delegateBoot.valid

/-- The ownership a claim or a transfer grants. -/
def grantedOwnership (current : PortRecord) (request : OwnershipRequest) : PortOwnership :=
  let authority := request.envelope.authority
  let generation := current.generations.ownership.advance
  { id := .fromValidated (composeIdentifier "own" current.port.value generation.value)
    kind := request.ownerKind
    owner := request.owner
    generation
    publisher := if request.delegates then request.delegatePublisher else authority.publisher
    boot := if request.delegates then request.delegateBoot else authority.boot
    epoch := authority.epoch
    exclusive := request.exclusive }

def OwnershipRequest.namesOwner (request : OwnershipRequest) : Bool :=
  request.ownerKind.isValid && request.ownerKind ≠ .unknown && request.owner.valid

def OwnershipRequest.callerHolds (request : OwnershipRequest) (ownership : PortOwnership) : Bool :=
  ownership.heldBy request.envelope.authority.publisher request.envelope.authority.boot
    request.envelope.authority.epoch

def PortRecord.reowned (current : PortRecord) (ownership : Option PortOwnership)
    (reason detail : Text) : PortRecord :=
  { current.advanceOwnershipGeneration with
    ownership
    statusReason := reason
    statusDetail := detail }

def grantPlan (input : MutationBuildInput) (request : OwnershipRequest) (transfer : Bool) :
    Planning MutationPlan := do
  rejectIf (request.delegates &&
      (!request.delegatePublisher.valid || !request.delegateBoot.valid)) .malformedRequest
    "a delegated transfer requires both the receiving publisher and its worker boot"
  rejectIf (request.delegates && !transfer) .malformedRequest
    "only an ownership transfer can name a receiving process incarnation"
  let ownership := grantedOwnership input.current request
  return {
    expected := .capture input.current
    next := input.current.reowned (some ownership)
      (if transfer then "OWNERSHIP_TRANSFERRED" else "OWNERSHIP_CLAIMED") ownership.owner.value }

def buildClaim (input : MutationBuildInput) (request : OwnershipRequest) :
    Planning MutationPlan := do
  rejectIf (input.current.ownership.any request.callerHolds) .alreadyCurrent
    "this process incarnation already holds ownership of the port"
  rejectIf (input.current.ownership.any PortOwnership.exclusive) .ownershipConflict
    "the port is owned exclusively by another authority"
  rejectIf (!request.namesOwner) .malformedRequest
    "an ownership claim requires an owner kind and an owner identity"
  grantPlan input request false

def buildTransfer (input : MutationBuildInput) (request : OwnershipRequest) :
    Planning MutationPlan := do
  let ownership ← demand input.current.ownership .unknownOwnership
    "the port is not owned and cannot be transferred"
  rejectIf (!request.callerHolds ownership) .unauthorizedOwner
    "the caller does not hold ownership of the port"
  rejectIf (!request.namesOwner) .malformedRequest
    "an ownership transfer requires an owner kind and an owner identity"
  grantPlan input request true

def buildRelease (input : MutationBuildInput) (request : OwnershipRequest) :
    Planning MutationPlan := do
  let ownership ← demand input.current.ownership .alreadyCurrent "the port is not owned"
  rejectIf (!request.callerHolds ownership) .unauthorizedOwner
    "the caller does not hold ownership of the port"
  return {
    expected := .capture input.current
    next := input.current.reowned none "OWNERSHIP_RELEASED" request.envelope.provenanceSource }

/-- The drift, the lifecycle and the status an evidence outcome leads to. -/
def PortRecord.judged (record : PortRecord) (outcome : AppliedOutcome) : PortRecord :=
  match outcome with
  | .verified => { record with drift := .inSync, statusReason := "APPLIED_VERIFIED" }
  | .applyFailed => { record with drift := .drifted, statusReason := "APPLY_FAILED" }
  | .outcomeUnknown =>
      let fenced :=
        if record.lifecycle.isLive then
          { record with lifecycle := .revalidationRequired
            : PortRecord }.advanceLifecycleGeneration
        else record
      { fenced with drift := .revalidationRequired, statusReason := "APPLY_OUTCOME_UNKNOWN" }
  | .applied => { record with drift := .unknown, statusReason := "APPLIED" }
  | _ => { record with drift := .unknown, statusReason := "APPLIED_NOT_ATTEMPTED" }

def PortRecord.evidenced (current : PortRecord) (evidence : AppliedEvidence) : PortRecord :=
  let advanced := current.advanceEvidenceGeneration
  let noted :=
    { advanced with
      applied := { evidence with evidenceGeneration := advanced.generations.evidence } }
  { noted.judged evidence.outcome with statusDetail := evidence.source }

def buildAppliedEvidence (input : MutationBuildInput) (request : EvidenceRequest) :
    Planning MutationPlan := do
  let current := input.current
  let evidence := request.evidence
  rejectIf (!evidence.outcome.isValid) .malformedRequest
    "the applied outcome is not a legal value"
  rejectIf (!current.configuration.isSome) .invalidLifecycleTransition
    "applied evidence requires a committed configuration generation"
  rejectIf (evidence.generation ≠ current.generations.configuration)
    .staleConfigurationGeneration
    "the applied evidence describes a configuration generation that is not current"
  rejectIf (current.applied.outcome = evidence.outcome &&
      current.applied.verified = evidence.verified &&
      current.applied.generation = evidence.generation) .alreadyCurrent
    "the applied evidence is already recorded"
  return { expected := .capture current, next := current.evidenced evidence }

/-- The lifecycle change an observed drift carries. -/
def PortRecord.observed (record : PortRecord) (drift : DriftState) : PortRecord :=
  match drift with
  | .revalidationRequired =>
      if record.lifecycle.isLive then
        { record with lifecycle := .revalidationRequired : PortRecord }.advanceLifecycleGeneration
      else record
  | .conflicted =>
      let evaluation := evaluateTransition record.lifecycle .conflict
      if evaluation.allowed then
        { record with lifecycle := evaluation.result : PortRecord }.advanceLifecycleGeneration
      else record
  | .inSync => { record with applied := { record.applied with verified := true } }
  | _ => record

def PortRecord.drifted (current : PortRecord) (observed : DriftState) (detail : Text) :
    PortRecord :=
  { current with
    drift := observed
    statusReason := text "DRIFT_" ++ observed.toText
    statusDetail := detail
    : PortRecord }.observed observed

def buildDrift (input : MutationBuildInput) (request : DriftRequest) :
    Planning MutationPlan := do
  let current := input.current
  rejectIf (!request.observed.isValid) .malformedRequest
    "the observed drift state is not a legal value"
  rejectIf (current.drift = request.observed) .alreadyCurrent
    "the observed drift state is already recorded"
  return {
    expected := .capture current
    next := current.drifted request.observed request.detail }

def Mutation.build (mutation : Mutation) (input : MutationBuildInput) : Planning MutationPlan :=
  match mutation with
  | .configure request => buildConfigure input request
  | .reconfigure request => buildReconfigure input request
  | .administrative request => buildAdministrative input request
  | .assignProfile request => buildAssignProfile input request
  | .bindCapabilities request => buildBindCapabilities input request
  | .reconcile request => buildReconcile input request
  | .supersede request => buildFence input request false
  | .retire request => buildFence input request true
  | .claimOwnership request => buildClaim input request
  | .transferOwnership request => buildTransfer input request
  | .releaseOwnership request => buildRelease input request
  | .recordAppliedEvidence request => buildAppliedEvidence input request
  | .observeExternalState request => buildDrift input request

end PortFabric
