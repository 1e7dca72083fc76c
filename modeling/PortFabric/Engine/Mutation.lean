import PortFabric.Engine.Commit

/-!
# Mutation pipeline

`execute_mutation` in the order of the source: the authority gate, the
expectations of the request, planning, adapter application and commit. Each
phase reads the engine state once, under the lock the source takes for it.
-/

set_option autoImplicit false

namespace PortFabric

def admitMutation (impl : EngineImpl) (mutation : Mutation) : Except Reply Unit :=
  if impl.shuttingDown then
    .error (.reject .shuttingDown "the runtime is shutting down and rejects mutations")
  else if !mutation.port.valid then
    .error (.reject .malformedRequest "the request does not carry a valid port identity")
  else if !mutation.authority.valid then
    .error (.reject .malformedRequest
      "the request does not carry a complete authority context")
  else
    .ok ()

/-- The authority phase; it can register an unknown publisher. -/
def authorise (runtime : Runtime) (impl : EngineImpl) (mutation : Mutation) :
    EngineImpl × Except Reply Unit :=
  let checked := impl.checkAuthority runtime mutation.authority
  if checked.2.isOk then
    (checked.1, .ok ())
  else
    (checked.1, .error (.result { outcome := checked.2 }))

/-- Retirement and replay, decided on the observed record alone. -/
def replayDecision (mutation : Mutation) (snapshot : PortRecord) : Except Reply Unit :=
  if snapshot.lifecycle = .retired ∧ mutation.kind ≠ .retire then
    .error (.reject .portRetired "the port is retired and can never be resurrected")
  else if snapshot.lifecycle = .retired ∧ mutation.kind = .retire then
    .error (.result (.reporting (.current "the port is already retired") snapshot))
  else if snapshot.lastMutation.valid ∧ snapshot.lastMutation.attempt = mutation.attempt then
    if snapshot.lastMutation.payloadDigest = mutation.payloadDigest then
      .error (.result (.reporting (.idempotent
        "the exact mutation attempt with an identical payload is already committed") snapshot))
    else
      -- The comparison is of 64-bit payload digests.
      .error (.reject .conflictDetected
        "the mutation attempt identity was already used with a different payload")
  else
    .ok ()

/-- The snapshot every later decision is made on. -/
def observe (impl : EngineImpl) (mutation : Mutation) : Except Reply PortRecord :=
  match impl.records[mutation.port]? with
  | none => .error (.reject .unknownPort "the port identity is not bound to this runtime")
  | some snapshot =>
      match replayDecision mutation snapshot with
      | .error reply => .error reply
      | .ok () => .ok snapshot

def expectTopology (impl : EngineImpl) (mutation : Mutation) : Except Reply Unit :=
  if mutation.authority.expectedTopology.valid ∧
      mutation.authority.expectedTopology ≠ impl.topology then
    .error (.reject .staleTopologyGeneration
      "the request expects a different topology generation")
  else
    .ok ()

def needsConfigurationExpectation : PortMutationKind → Bool
  | .configure | .reconfigure | .assignProfile | .reconcile => true
  | _ => false

def expectCapability (mutation : Mutation) (snapshot : PortRecord) : Except Reply Unit :=
  if mutation.authority.expectedCapability.valid ∧
      mutation.authority.expectedCapability ≠ snapshot.generations.capability then
    .error (.reject .staleCapabilityGeneration
      "the request expects a different capability generation")
  else
    .ok ()

def expectConfiguration (mutation : Mutation) (snapshot : PortRecord) : Except Reply Unit :=
  if (needsConfigurationExpectation mutation.kind ∨
        mutation.authority.expectedConfiguration.valid) ∧
      mutation.authority.expectedConfiguration ≠ snapshot.generations.configuration then
    .error (.result
      { outcome :=
          ((Outcome.failure .staleConfigurationGeneration
            "the request expects a configuration generation that is not current").withDetail
            "expected" mutation.authority.expectedConfiguration.formatOrNone).withDetail
            "current" snapshot.generations.configuration.formatOrNone })
  else
    .ok ()

/-- Ownership means mutation authority: an owned port rejects any other incarnation. -/
def ownershipGate (config : EngineConfig) (mutation : Mutation) (snapshot : PortRecord) :
    Except Reply Unit :=
  if !config.requireOwnership || mutation.kind = .claimOwnership then
    .ok ()
  else
  match snapshot.ownership with
  | none =>
      if snapshot.configuration.isSome then
        .error (.reject .unauthorizedOwner
          "the port has no owner and therefore no mutation authority is delegated")
      else
        .ok ()
  | some ownership =>
      if mutation.authority.ownership.valid ∧ mutation.authority.ownership ≠ ownership.id then
        .error (.reject .staleOwnershipGeneration
          "the request expects a different ownership identity")
      else if mutation.authority.ownershipGeneration.valid ∧
          mutation.authority.ownershipGeneration ≠ snapshot.generations.ownership then
        .error (.reject .staleOwnershipGeneration
          "the request expects a different ownership generation")
      else if mutation.kind ≠ .transferOwnership ∧ mutation.kind ≠ .releaseOwnership ∧
          !ownership.heldBy mutation.authority.publisher mutation.authority.boot
            mutation.authority.epoch then
        .error (.result
          { outcome :=
              (((Outcome.failure .unauthorizedOwner
                "the caller does not hold control ownership of this port").withDetail
                "owner" ownership.owner.value).withDetail
                "publisher" ownership.publisher.value).withDetail
                "boot" ownership.boot.value })
      else
        .ok ()

structure MutationContext where
  topology : TopologyGeneration
  deviceGeneration : Option DeviceGeneration
  deriving DecidableEq

def readContext (impl : EngineImpl) (snapshot : PortRecord) : MutationContext where
  topology := impl.topology
  deviceGeneration := (impl.devices[snapshot.parentDevice]?).map DeviceBinding.generation

def toleratesReplacedDevice : PortMutationKind → Bool
  | .reconcile | .supersede | .retire | .bindPort => true
  | _ => false

/-- A configuration bound to a replaced device is fenced until it is reconciled. -/
def deviceGate (mutation : Mutation) (snapshot : PortRecord) (context : MutationContext) :
    Except Reply Unit :=
  match context.deviceGeneration with
  | none => .ok ()
  | some deviceGeneration =>
      if toleratesReplacedDevice mutation.kind then
        .ok ()
      else if mutation.authority.expectedDevice.valid ∧
          mutation.authority.expectedDevice ≠ deviceGeneration then
        .error (.result
          { outcome :=
              ((Outcome.failure .staleDeviceGeneration
                "the request expects a device generation that was replaced").withDetail
                "expected" mutation.authority.expectedDevice.format).withDetail
                "current" deviceGeneration.format })
      else if deviceGeneration ≠ snapshot.generations.device then
        .error (.result
          { outcome :=
              ((Outcome.failure .staleDeviceGeneration
                "the configuration is bound to a device generation that has been replaced"
                ).withDetail
                "bound" snapshot.generations.device.formatOrNone).withDetail
                "current" deviceGeneration.format })
      else
        .ok ()

/-- Bound evidence when present, otherwise a fresh reading from the provider. -/
def resolveCapabilities (runtime : Runtime) (record : PortRecord) (answer : ProviderAnswer) :
    Except Outcome CapabilityBinding :=
  if record.capability.present then
    .ok record.capability
  else if !runtime.capabilityProvider then
    .error (.failure .capabilityUnavailable
      "no capability evidence is bound and no provider is configured")
  else
  match answer.binding with
  | none =>
      .error (.failure .capabilityUnavailable
        (if answer.error.isEmpty then text "the capability provider returned no evidence"
         else answer.error))
  | some binding =>
      if !binding.present then
        .error (.failure .capabilityUnknown
          "the capability provider reported UNKNOWN evidence")
      else
      match binding.capabilities.validate with
      | .error error => .error (.failure .capabilityUnavailable error)
      | .ok () => .ok binding

def evidenceFor (runtime : Runtime) (mutation : Mutation) (snapshot : PortRecord)
    (answer : ProviderAnswer) : Except Reply CapabilityBinding :=
  if needsConfigurationExpectation mutation.kind then
    match resolveCapabilities runtime snapshot answer with
    | .error outcome => .error (.result { outcome })
    | .ok binding => .ok binding
  else
    .ok {}

def planReply (snapshot : PortRecord) : PlanFailure → Reply
  | .undefinedBehaviour => .undefinedBehaviour
  | .rejected code detail =>
      if code = .alreadyCurrent then .result (.reporting (.current detail) snapshot)
      else .result (.reporting (.failure code detail) snapshot)

def validatePlan (snapshot : PortRecord) (plan : MutationPlan) : Except Reply Unit :=
  match plan.next.validate with
  | .error error => .error (.reject .invalidConfiguration error)
  | .ok () =>
  if !plan.requiresCapabilityValidation then
    .ok ()
  else
  match plan.next.configuration with
  | none =>
      .error (.reject .internalError "a capability validated plan carries no configuration")
  | some configuration =>
      match validateAgainstCapabilities configuration plan.capability with
      | .ok () => .ok ()
      | .error rejection =>
          .error (.result
            { outcome :=
                (Outcome.failure rejection.code rejection.detail).withDetail
                  "reason" rejection.reason
              lifecycle := snapshot.lifecycle
              configurationGeneration := snapshot.generations.configuration })

def stampPlan (mutation : Mutation) (plan : MutationPlan) : MutationPlan :=
  { plan with
    next :=
      { plan.next with
        lastMutation :=
          { attempt := mutation.attempt
            payloadDigest := mutation.payloadDigest
            resultGeneration := plan.next.generations.configuration }
        provenance := makeProvenance mutation.envelope mutation.fallbackProvenance } }

def preparePlan (runtime : Runtime) (profiles : ProfileRegistry) (mutation : Mutation)
    (snapshot : PortRecord) (context : MutationContext) (answer : ProviderAnswer) :
    Except Reply MutationPlan := do
  let capability ← evidenceFor runtime mutation snapshot answer
  let plan ← (mutation.build
    { current := snapshot, topology := context.topology,
      parentDeviceGeneration := context.deviceGeneration, capability, profiles }).mapError
    (planReply snapshot)
  validatePlan snapshot plan
  return stampPlan mutation plan

inductive ApplyDecision where
  /-- Commit the plan with this evidence. -/
  | commit (plan : MutationPlan) (applied : AppliedEvidence) (settled : Bool)
  /-- The device did not change; nothing is recorded. -/
  | reject (reply : Reply)
  /-- Record uncertainty; `reply` replaces its own result when given. -/
  | uncertain (generation : PortConfigurationGeneration) (detail : Text) (code : OutcomeCode)
      (reply : Option MutationResult)

/-- Settled evidence advances the evidence generation and decides the drift. -/
def settlePlan (plan : MutationPlan) (applied : AppliedEvidence) : ApplyDecision :=
  let advanced := plan.next.advanceEvidenceGeneration
  let drift :=
    if applied.outcome = .verified then .inSync
    else if applied.outcome = .applyFailed then .drifted
    else if applied.outcome = .outcomeUnknown then .revalidationRequired
    else advanced.drift
  .commit { plan with next := { advanced with drift } }
    { applied with evidenceGeneration := advanced.generations.evidence } true

def verifyApplied (plan : MutationPlan) (applied : AppliedEvidence) (readback : AdapterReadback) :
    ApplyDecision :=
  let generation := plan.next.generations.configuration
  match readback.status with
  | .verified => settlePlan plan { applied with outcome := .verified, verified := true }
  | .mismatch =>
      .uncertain generation "readback reported a mismatch after a successful apply"
        .readbackMismatch
        (some
          { outcome :=
              (Outcome.failure .readbackMismatch
                "the device does not match the configuration that was applied").withDetail
                "detail" readback.detail })
  | .unknown =>
      .uncertain generation "the readback could not determine device state" .applyOutcomeUnknown
        none
  | .unsupported => settlePlan plan { applied with outcome := .applied, verified := false }

/-- The adapter phase, made with no lock held. -/
def applyPlan (runtime : Runtime) (snapshot : PortRecord) (plan : MutationPlan)
    (answers : MutationAnswers) : ApplyDecision :=
  let generation := plan.next.generations.configuration
  let noted (outcome : AppliedOutcome) (source : Text) : AppliedEvidence :=
    { plan.next.applied with outcome, generation, verified := false, source }
  if !plan.requiresApply then
    .commit plan plan.next.applied false
  else if runtime.config.adapterPolicy = .desiredStateOnly then
    .commit plan (noted .notAttempted "desired-state-only") true
  else
  match runtime.adapter with
  | none => settlePlan plan (noted .unsupported "no-adapter")
  | some label =>
      match answers.apply.status with
      | .applied =>
          if runtime.config.adapterPolicy = .applyAndVerify then
            verifyApplied plan (noted .applied label) answers.readback
          else
            settlePlan plan (noted .applied label)
      | .unsupported => settlePlan plan (noted .unsupported label)
      | .failed =>
          .reject (.result
            { outcome :=
                ((Outcome.failure .applyFailed
                  "the device adapter reported a failed apply").withDetail
                  "detail" answers.apply.detail).withDetail "adapter" label
              lifecycle := snapshot.lifecycle
              configurationGeneration := snapshot.generations.configuration })
      | .outcomeUnknown =>
          .uncertain generation
            (if answers.apply.detail.isEmpty then
              text "the apply outcome is unknown and requires readback"
             else answers.apply.detail)
            .applyOutcomeUnknown none

def concludeMutation (runtime : Runtime) (mutation : Mutation) (decision : ApplyDecision)
    (store : StoreAnswers) (impl : EngineImpl) : EngineImpl × Reply :=
  match decision with
  | .reject reply => (impl, reply)
  | .commit plan applied settled =>
      let committed := impl.commit runtime mutation.port plan applied settled store
      (committed.1, .result committed.2)
  | .uncertain generation detail code reply =>
      let recorded := impl.recordApplyUncertainty runtime mutation.port mutation.authority
        generation .outcomeUnknown detail code store
      (recorded.1, .result (reply.getD recorded.2))

/-- The expectations and the ownership gate, all decided on the snapshot. -/
def snapshotGates (config : EngineConfig) (mutation : Mutation) (snapshot : PortRecord) :
    Except Reply Unit := do
  expectCapability mutation snapshot
  expectConfiguration mutation snapshot
  ownershipGate config mutation snapshot

/-- The phases from the snapshot to the validated plan, run without interleaving. -/
def planMutation (runtime : Runtime) (mutation : Mutation) (answer : ProviderAnswer)
    (impl : EngineImpl) : Except Reply (PortRecord × MutationPlan) := do
  let snapshot ← observe impl mutation
  expectTopology impl mutation
  snapshotGates runtime.config mutation snapshot
  let context := readContext impl snapshot
  deviceGate mutation snapshot context
  let plan ← preparePlan runtime impl.profiles mutation snapshot context answer
  return (snapshot, plan)

def executeMutation (runtime : Runtime) (mutation : Mutation) (answers : MutationAnswers)
    (impl : EngineImpl) : EngineImpl × Reply :=
  match admitMutation impl mutation with
  | .error reply => (impl, reply)
  | .ok () =>
  match authorise runtime impl mutation with
  | (authorised, .error reply) => (authorised, reply)
  | (authorised, .ok ()) =>
  match planMutation runtime mutation answers.provider authorised with
  | .error reply => (authorised, reply)
  | .ok (snapshot, plan) =>
      concludeMutation runtime mutation (applyPlan runtime snapshot plan answers) answers.store
        authorised

namespace PortFabricEngine

variable (runtime : Runtime) (answers : MutationAnswers) (impl : EngineImpl)

def configure (request : ConfigureRequest) : EngineImpl × Reply :=
  executeMutation runtime (.configure request) answers impl

def reconfigure (request : ReconfigureRequest) : EngineImpl × Reply :=
  executeMutation runtime (.reconfigure request) answers impl

def administrative (request : AdministrativeRequest) : EngineImpl × Reply :=
  executeMutation runtime (.administrative request) answers impl

def assignProfile (request : ProfileRequest) : EngineImpl × Reply :=
  executeMutation runtime (.assignProfile request) answers impl

def bindCapabilities (request : CapabilityRequest) : EngineImpl × Reply :=
  executeMutation runtime (.bindCapabilities request) answers impl

def reconcile (request : ReconcileRequest) : EngineImpl × Reply :=
  executeMutation runtime (.reconcile request) answers impl

def supersede (request : FenceRequest) : EngineImpl × Reply :=
  executeMutation runtime (.supersede request) answers impl

def retire (request : FenceRequest) : EngineImpl × Reply :=
  executeMutation runtime (.retire request) answers impl

def claimOwnership (request : OwnershipRequest) : EngineImpl × Reply :=
  executeMutation runtime (.claimOwnership request) answers impl

def transferOwnership (request : OwnershipRequest) : EngineImpl × Reply :=
  executeMutation runtime (.transferOwnership request) answers impl

def releaseOwnership (request : OwnershipRequest) : EngineImpl × Reply :=
  executeMutation runtime (.releaseOwnership request) answers impl

def recordAppliedEvidence (request : EvidenceRequest) : EngineImpl × Reply :=
  executeMutation runtime (.recordAppliedEvidence request) answers impl

def observeExternalState (request : DriftRequest) : EngineImpl × Reply :=
  executeMutation runtime (.observeExternalState request) answers impl

end PortFabricEngine

end PortFabric
