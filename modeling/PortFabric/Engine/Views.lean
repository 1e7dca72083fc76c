import PortFabric.Diff
import PortFabric.Engine.Commit
import PortFabric.Engine.Queries
import PortFabric.Explanation
import PortFabric.Rendering

/-!
# Views

What callers read of the engine: single values of a record, the digest of the
state, snapshots and explanations.
-/

set_option autoImplicit false

namespace PortFabric

/-- The latest generation of a profile. -/
def ProfileRegistry.latest (registry : ProfileRegistry) (id : PortProfileId) :
    Option PortProfile :=
  (registry[id]?).bind List.getLast?

def recordBefore (lhs rhs : PortRecord) : Prop :=
  portBefore lhs.port rhs.port

instance (lhs rhs : PortRecord) : Decidable (recordBefore lhs rhs) :=
  inferInstanceAs (Decidable (portBefore lhs.port rhs.port))

/-- The digest of a set of records, in the order of their ports. -/
def digestRecords (records : List PortRecord) : Digest :=
  let ordered := records.insertionSort recordBefore
  (ordered.foldl
    (fun builder record => builder.addField record.port.value (digestRecord record).toHex)
    (({} : DigestBuilder).addU64 "record_count" ordered.length)).finish

structure Snapshot where
  /-- Empty when the composed identity is malformed. -/
  id : Text
  generation : EngineGeneration
  epoch : CoordinatorEpoch
  topology : TopologyGeneration
  records : List PortRecord
  digest : Digest
  deriving DecidableEq

def Snapshot.toText (snapshot : Snapshot) : Text :=
  text "snapshot=" ++ (if snapshot.id.isEmpty then text "none" else snapshot.id) ++
  text " generation=" ++ snapshot.generation.formatOrNone ++
  text " epoch=" ++ snapshot.epoch.formatOrNone ++
  text " topology=" ++ snapshot.topology.formatOrNone ++
  text " ports=" ++ formatU64 snapshot.records.length ++
  text " digest=" ++ snapshot.digest.toHex

namespace PortFabricEngine

variable (runtime : Runtime) (impl : EngineImpl) (port : PortId)

def record : Option PortRecord := impl.records[port]?

def configuration : Option PortConfiguration :=
  (impl.records[port]?).bind PortRecord.configuration

def lifecycle : Option PortLifecycle := (impl.records[port]?).map PortRecord.lifecycle

def administrativeState : Option AdministrativeState :=
  (configuration impl port).map PortConfiguration.administrative

def ownership : Option PortOwnership := (impl.records[port]?).bind PortRecord.ownership

def capabilityBinding : Option CapabilityBinding :=
  (impl.records[port]?).map PortRecord.capability

def appliedEvidence : Option AppliedEvidence := (impl.records[port]?).map PortRecord.applied

def stateDigest : Digest := digestRecords (impl.records.toList.map Prod.snd)

def portCount : Nat := impl.records.size

def profileCount : Nat := impl.profiles.list.length

def profiles : List PortProfile := impl.profiles.list

def devices : List DeviceBinding := impl.devices.toList.map Prod.snd

/-- The bound profile generation is gone, or is not the latest one. -/
def staleProfileBinding (record : PortRecord) : Bool :=
  match record.configuration with
  | none => false
  | some configuration =>
      configuration.profile.bound &&
        match impl.profiles.latest configuration.profile.id with
        | none => true
        | some latest => latest.generation ≠ configuration.profile.generation

def portsWithStaleProfileBinding : List PortId :=
  (((impl.records.toList.map Prod.snd).filter (staleProfileBinding impl)).map
    PortRecord.port).insertionSort portBefore

/-- What a proposed configuration would change of a port. -/
def diff (proposed : PortConfiguration) : List DiffEntry :=
  match impl.records[port]? with
  | none => []
  | some found => diffRecords found { found with configuration := some proposed }

def snapshot : Snapshot :=
  let records := (impl.records.toList.map Prod.snd).insertionSort recordBefore
  let composed := composeIdentifier "snap" runtime.config.coordinator.value impl.generation.value
  { id := if validateIdentifier composed = .ok then composed else []
    generation := impl.generation
    epoch := impl.epoch
    topology := impl.topology
    records
    digest := digestRecords records }

/-- The detail of a state: the status of the record, or a fixed text in its absence. -/
def statusOr (record : PortRecord) (fallback : Text) : Text :=
  if record.statusDetail.isEmpty then fallback else record.statusDetail

def explainLifecycle (record : PortRecord) (explanation : Explanation) : Explanation :=
  match record.lifecycle with
  | .unconfigured =>
      explanation.add .lifecycleUnconfigured
        "no configuration generation has been committed for this port"
  | .superseded =>
      explanation.add .lifecycleSuperseded
        (statusOr record "the configuration generation is fenced")
  | .retired => explanation.add .lifecycleRetired (statusOr record "the port is retired")
  | .revalidationRequired =>
      explanation.add .lifecycleRevalidationRequired
        (statusOr record "the committed configuration must be revalidated against current evidence")
  | .conflicted =>
      explanation.add .lifecycleConflicted
        (statusOr record "two authorities disagree about this port")
  | _ => explanation

/-- The generations the committed configuration is bound to, where they are not the current ones. -/
def explainConfiguration (record : PortRecord) (configuration : PortConfiguration)
    (explanation : Explanation) : Explanation :=
  let explanation := explanation.addIf configuration.profile.bound .profileBound
    configuration.profile.toText
  let explanation := explanation.addIf
    (configuration.deviceGeneration ≠ record.generations.device) .deviceGenerationAdvanced
    (text "the committed configuration is bound to device generation " ++
      configuration.deviceGeneration.format ++ text " while the runtime records generation " ++
      record.generations.device.format)
  let explanation := explanation.addIf
    (configuration.topologyGeneration ≠ impl.topology) .topologyGenerationAdvanced
    (text "the committed configuration is bound to topology generation " ++
      configuration.topologyGeneration.format ++ text " while the runtime records generation " ++
      impl.topology.format)
  let explanation := explanation.addIf
    (configuration.capabilityGeneration ≠ record.generations.capability)
    .capabilityGenerationAdvanced
    (text "the committed configuration is bound to capability generation " ++
      configuration.capabilityGeneration.format ++
      text " while the bound evidence generation is " ++ record.generations.capability.format)
  let explanation := explanation.addIf (!record.applied.currentFor configuration.generation)
    .appliedEvidenceStale
    (text "physical application evidence for generation " ++ configuration.generation.format ++
      text " is " ++ record.applied.outcome.toText ++
      if record.applied.verified then text " (verified)" else text " (not independently verified)")
  explanation.addIf (record.applied.outcome = .outcomeUnknown) .appliedOutcomeUnknownPending
    "the last apply attempt has an unknown outcome and requires readback"

def explainDrift (record : PortRecord) (explanation : Explanation) : Explanation :=
  match record.drift with
  | .drifted =>
      explanation.add .driftObserved
        (statusOr record "observed device state differs from desired state")
  | .inSync => explanation.add .driftObserved "observed device state matches desired state"
  | .revalidationRequired =>
      explanation.add .driftObserved
        "drift requires revalidation before the configuration is trusted again"
  | .conflicted =>
      explanation.add .driftObserved
        "the device reports a configuration that conflicts with authoritative state"
  | _ => explanation

def explain : Explanation :=
  match impl.records[port]? with
  | none =>
      Explanation.add
        { outcome := .unknownPort, summary := "the port identity is not bound to this runtime" }
        .rejectedUnknownPort port.value
  | some record =>
      let explanation := Explanation.add
        { accepted := true, outcome := .ok, summary := renderPortSummary record }
        .accepted "record is bound and readable"
      let explanation := explainLifecycle record explanation
      let explanation := record.ownership.elim explanation fun ownership =>
        explanation.add .ownershipHeld ownership.toText
      let explanation := record.configuration.elim explanation fun configuration =>
        explainConfiguration impl record configuration explanation
      let explanation := explainDrift record explanation
      let explanation := explanation.addIf (record.provenance.kind = .recovery)
        .recoveredFromPersistence
        "the record was recovered from durable state and requires reconciliation"
      explanation.add .configurationCommitted
        (text "engine generation " ++ impl.generation.formatOrNone ++
          text " coordinator epoch " ++ impl.epoch.formatOrNone)

end PortFabricEngine

end PortFabric
