import PortFabric.Engine.Commit
import Mathlib.Data.List.Sort

/-!
# Recovery

`save` and `load`. A load trusts nothing about liveness: ownership, live
lifecycles and verified evidence do not survive it.
-/

set_option autoImplicit false

namespace PortFabric

namespace PortRecord

/-- Ownership held by a previous process does not survive a restart. -/
def recoverOwnership (record : PortRecord) : PortRecord :=
  match record.ownership with
  | none => record
  | some _ =>
      record.released "OWNERSHIP_RELEASED_ON_RECOVERY"
        "ownership held by a previous process incarnation does not survive restart"

/-- Acknowledged or verified evidence becomes unknown. -/
def recoverEvidence (record : PortRecord) : PortRecord :=
  if record.applied.outcome = .applied ∨ record.applied.outcome = .verified then
    let advanced := record.advanceEvidenceGeneration
    { advanced with
      applied :=
        { record.applied with
          outcome := .outcomeUnknown, verified := false, source := "recovered",
          evidenceGeneration := advanced.generations.evidence } }
  else
    record

/-- A recovered configuration has to be revalidated. -/
def recoverLifecycle (record : PortRecord) : PortRecord :=
  if record.configuration.isSome ∧ record.lifecycle ≠ .retired then
    { record with
      lifecycle := .revalidationRequired
      drift := .revalidationRequired
      statusReason := "RECOVERED_FROM_PERSISTENCE"
      statusDetail :=
        ("durable desired configuration recovered; revalidation against current device, " ++
          "topology and capability generations is required before it is trusted again" : String)
      : PortRecord }.advanceLifecycleGeneration
  else
    record

/-- Conservative recovery of one record; it answers no old replay. -/
def recovered (record : PortRecord) : PortRecord :=
  let conservative := record.recoverOwnership.recoverEvidence.recoverLifecycle
  { conservative with
    lastMutation := {}
    provenance := { conservative.provenance with kind := .recovery } }

end PortRecord

def profileBefore (lhs rhs : PortProfile) : Prop :=
  if lhs.id ≠ rhs.id then (compare lhs.id rhs.id).isLE else lhs.generation ≤ rhs.generation

instance (lhs rhs : PortProfile) : Decidable (profileBefore lhs rhs) := by
  unfold profileBefore
  infer_instance

/-- Defines the profiles in turn; the first refusal ends the restore. -/
def restoreProfiles : ProfileRegistry → List PortProfile → ProfileRegistry × Option Outcome
  | registry, [] => (registry, none)
  | registry, profile :: rest =>
      let defined := registry.define profile
      if defined.2.accepted then
        restoreProfiles defined.1 rest
      else
        (defined.1, some (.failure .persistenceCorruption
          (text "a recovered profile could not be restored: " ++ defined.2.toText)))

/-- Recovers the records in turn; the first inconsistent one ends the restore. -/
def restoreRecords : RecordMap → List PortRecord → RecordMap × Option Outcome
  | records, [] => (records, none)
  | records, record :: rest =>
      match record.recovered.validate with
      | .error error =>
          (records, some (.failure .persistenceCorruption
            (text "a recovered record is inconsistent: " ++ error)))
      | .ok () =>
          restoreRecords (records.insertIfNew record.recovered.port record.recovered) rest

namespace EngineImpl

def acceptContainer (config : EngineConfig) (state : PersistedState) : Except Outcome Unit :=
  if state.records.length > config.portBound then
    .error (.failure .persistenceBoundsExceeded
      "the container carries more records than the configured port bound")
  else if config.fabric.valid ∧ state.fabric.valid ∧ config.fabric ≠ state.fabric then
    .error (.failure .conflictDetected
      "the container belongs to a different fabric authority domain")
  else if config.site.valid ∧ state.site.valid ∧ config.site ≠ state.site then
    .error (.failure .conflictDetected
      "the container belongs to a different site authority domain")
  else
    .ok ()

/-- The authority part: the epoch moves past the persisted one and every publisher is fenced. -/
def recoverAuthority (impl : EngineImpl) (state : PersistedState) (epoch : CoordinatorEpoch) :
    EngineImpl :=
  { impl with
    epoch
    topology :=
      if state.topology.valid ∧ impl.topology < state.topology then state.topology
      else impl.topology
    devices := state.devices.foldl
      (fun devices binding => devices.insert binding.device binding) ∅
    publishers := state.publishers.foldl
      (fun publishers publisher =>
        publishers.insert publisher.publisher { publisher with fenced := true }) ∅ }

def recoverRecords (impl : EngineImpl) (state : PersistedState) : EngineImpl × Outcome :=
  match restoreRecords ∅ state.records with
  | (records, some failure) => ({ impl with records }, failure)
  | (records, none) =>
      let indexed :=
        { impl with records, indexes := .reindexAll (records.toList.map Prod.snd) }
      if state.engineGeneration.valid then
        if state.engineGeneration.exhaustible then
          (indexed, .failure .resourceBoundExceeded
            "the persisted engine generation can no longer advance")
        else
          ({ indexed with generation := state.engineGeneration.next },
            .success "durable state recovered conservatively")
      else
        ({ indexed with generation := .first },
          .success "durable state recovered conservatively")

end EngineImpl

namespace PortFabricEngine

def save (runtime : Runtime) (impl : EngineImpl) (store : StoreAnswers) : EngineImpl × Outcome :=
  if runtime.config.persistencePath.isEmpty then
    (impl, .failure .persistenceIoFailure "no persistence container path is configured")
  else
    let written := savePersistedState (impl.gatherState runtime.config) store
    ({ impl with durabilityDirty := !written.isOk }, written)

/-- Loads a container; `container` is what reading and decoding the file answered. -/
def load (runtime : Runtime) (impl : EngineImpl) (container : Except Outcome PersistedState) :
    EngineImpl × Outcome :=
  if runtime.config.persistencePath.isEmpty then
    (impl, .failure .persistenceIoFailure "no persistence container path is configured")
  else
  match container with
  | .error outcome => (impl, outcome)
  | .ok state =>
  match EngineImpl.acceptContainer runtime.config state with
  | .error outcome => (impl, outcome)
  | .ok () =>
  match restoreProfiles ∅ (state.profiles.insertionSort profileBefore) with
  -- The registry is cleared first and filled in place, so a refusal keeps what was defined.
  | (profiles, some failure) => ({ impl with profiles }, failure)
  | (profiles, none) =>
      let restored := { impl with profiles }
      if impl.epoch ≤ state.epoch then
        if state.epoch.exhaustible then
          (restored, .failure .resourceBoundExceeded
            "the persisted coordinator epoch can no longer advance")
        else
          (restored.recoverAuthority state state.epoch.next).recoverRecords state
      else
        (restored.recoverAuthority state impl.epoch).recoverRecords state

end PortFabricEngine

end PortFabric
