import PortFabric.Engine.Authority
import PortFabric.Engine.Plan

/-!
# Commit

Compare-and-commit of a plan, the record of an uncertain apply, and automatic
persistence.
-/

set_option autoImplicit false

namespace PortFabric

def renderPortSummary (record : PortRecord) : Text :=
  (if record.port.valid then record.port.value else text "none") ++
    text " lifecycle=" ++ record.lifecycle.toText ++
    text " drift=" ++ record.drift.toText ++
    match record.configuration with
    | some configuration =>
        text " configuration_generation=" ++ configuration.generation.format
    | none => []

/-- What an uncertain apply leaves of the record. -/
def PortRecord.uncertain (record : PortRecord) (runtime : Runtime) (authority : AuthorityContext)
    (generation : PortConfigurationGeneration) (outcome : AppliedOutcome) (detail : Text) :
    PortRecord :=
  let evidence := record.generations.evidence.advance
  let noted :=
    { record with
      applied :=
        { outcome, generation, verified := false,
          source := runtime.adapter.getD "adapter", evidenceGeneration := evidence }
      generations := { record.generations with evidence }
      statusDetail := detail
      provenance :=
        { record.provenance with
          kind := .recovery, epoch := authority.epoch, attempt := authority.attempt } }
  if outcome = .outcomeUnknown then
    -- Retired and superseded ports keep their fencing.
    let fenced :=
      if record.lifecycle ≠ .retired ∧ record.lifecycle ≠ .superseded then
        { noted with lifecycle := .revalidationRequired : PortRecord }.advanceLifecycleGeneration
      else noted
    { fenced with drift := .revalidationRequired, statusReason := "APPLY_OUTCOME_UNKNOWN" }
  else
    { noted with drift := .drifted, statusReason := "APPLY_INTERRUPTED" }

namespace EngineImpl

def gatherState (config : EngineConfig) (impl : EngineImpl) : PersistedState where
  fabric := config.fabric
  site := config.site
  epoch := impl.epoch
  engineGeneration := impl.generation
  topology := impl.topology
  records := impl.records.toList.map Prod.snd
  profiles := impl.profiles.list
  devices := impl.devices.toList.map Prod.snd
  publishers := impl.publishers.toList.map Prod.snd

def persistLockedState (runtime : Runtime) (store : StoreAnswers) (impl : EngineImpl) :
    EngineImpl × Outcome :=
  if runtime.config.persistence ≠ .automatic then
    (impl, .success "persistence is manual")
  else if runtime.config.persistencePath.isEmpty then
    (impl, .failure .persistenceIoFailure
      "automatic persistence is enabled without a container path")
  else
    let written := savePersistedState (impl.gatherState runtime.config) store
    ({ impl with durabilityDirty := !written.isOk }, written)

def replaceRecord (impl : EngineImpl) (port : PortId) (before after : PortRecord) : EngineImpl :=
  { impl with
    records := impl.records.insert port after
    indexes := impl.indexes.indexUpdate before after
    generation := impl.generation.next }

/-- The critical section that records adapter uncertainty; an unknown port is left alone. -/
def recordUncertainty (runtime : Runtime) (port : PortId) (authority : AuthorityContext)
    (generation : PortConfigurationGeneration) (outcome : AppliedOutcome) (detail : Text)
    (impl : EngineImpl) : EngineImpl :=
  match impl.records[port]? with
  | none => impl
  | some before =>
      impl.replaceRecord port before (before.uncertain runtime authority generation outcome detail)

def recordApplyUncertainty (runtime : Runtime) (port : PortId) (authority : AuthorityContext)
    (generation : PortConfigurationGeneration) (outcome : AppliedOutcome) (detail : Text)
    (code : OutcomeCode) (store : StoreAnswers) (impl : EngineImpl) :
    EngineImpl × MutationResult :=
  let recorded := impl.recordUncertainty runtime port authority generation outcome detail
  let persisted :=
    if (impl.records[port]?).isSome then (recorded.persistLockedState runtime store).1
    else recorded
  (persisted, .rejected code detail)

def committedRecord (plan : MutationPlan) (applied : AppliedEvidence) (appliedSettled : Bool) :
    PortRecord :=
  if appliedSettled then { plan.next with applied } else plan.next

/-- The critical section of a commit: compare with the current record, then replace it. -/
def commitRecord (port : PortId) (plan : MutationPlan) (applied : AppliedEvidence)
    (appliedSettled : Bool) (impl : EngineImpl) : Except MutationResult EngineImpl :=
  match impl.records[port]? with
  | none =>
      .error (.rejected .unknownPort "the port identity is not bound to this runtime")
  | some current =>
      if current.lastMutation.attempt.valid ∧
          current.lastMutation.attempt = plan.next.lastMutation.attempt then
        .error (.reporting (.idempotent
          "the mutation attempt was already committed by a concurrent request") current)
      else if !plan.expected.matchesRecord current then
        .error (.reporting
          (((Outcome.failure .staleConfigurationGeneration
            "authoritative state changed while this mutation was prepared").withDetail
            "expected" plan.expected.toText).withDetail
            "current" (renderPortSummary current)) current)
      else if current.lifecycle = .retired ∧ plan.next.lifecycle ≠ .retired then
        .error
          { outcome := .failure .portRetired "a retired port can never be resurrected"
            lifecycle := current.lifecycle }
      else if impl.generation.exhaustible then
        .error (.rejected .resourceBoundExceeded
          "the engine generation can no longer advance")
      else
        .ok (impl.replaceRecord port current (committedRecord plan applied appliedSettled))

def commitResult (final : PortRecord) (persisted : Outcome) : MutationResult :=
  if persisted.isOk then
    .reporting (.success "mutation committed") final
  else
    .reporting
      ((Outcome.failure .persistenceIoFailure
        "the mutation was committed in memory but durable state could not be written").withDetail
        "persistence" persisted.toText) final

def commit (runtime : Runtime) (port : PortId) (plan : MutationPlan) (applied : AppliedEvidence)
    (appliedSettled : Bool) (store : StoreAnswers) (impl : EngineImpl) :
    EngineImpl × MutationResult :=
  match impl.commitRecord port plan applied appliedSettled with
  | .error result => (impl, result)
  | .ok committed =>
      let persisted := committed.persistLockedState runtime store
      (persisted.1, commitResult (committedRecord plan applied appliedSettled) persisted.2)

end EngineImpl

end PortFabric
