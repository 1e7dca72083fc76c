import PortFabric.Engine.Operation
import PortFabric.Engine.Views
import PortFabric.Library.LockPrograms

/-!
# Locking

The operations of the engine as programs of locks, accesses to the state and
calls out of the engine, in the order in which the source takes, makes and
releases them. A scope of the source is a scope here.
-/

set_option autoImplicit false

namespace PortFabric

open LockPrograms

inductive EngineMutex where
  | records | profiles | authority | persistence
  deriving DecidableEq, Repr

inductive EngineCall where
  | providerCurrent (port : PortId)
  | adapterApply (port : PortId) (configuration : PortConfiguration)
  | adapterReadback (port : PortId)
  | adapterLabel
  | storeSave (state : PersistedState)
  | storeLoad

namespace EngineCall

/-- The label of an adapter is fixed; it is the one the runtime knows. -/
abbrev Answer : EngineCall → Type
  | providerCurrent _ => ProviderAnswer
  | adapterApply _ _ => AdapterApplyResult
  | adapterReadback _ => AdapterReadback
  | adapterLabel => Unit
  | storeSave _ => StoreAnswers
  | storeLoad => Except Outcome PersistedState

/-- A call of the capability provider or of the adapter; the container is the engine's own. -/
def foreign : EngineCall → Bool
  | providerCurrent _ | adapterApply _ _ | adapterReadback _ | adapterLabel => true
  | storeSave _ | storeLoad => false

end EngineCall

/-- The accesses on which it depends whether the engine calls out under a lock. -/
inductive EngineAccess where
  /-- `bind_port` looks up whether its port is bound. -/
  | bindingLookup (port : PortId)
  /-- `record_apply_uncertainty` looks up its record. -/
  | uncertaintyLookup (port : PortId)
  | plain

abbrev EngineProgram := Program EngineMutex EngineImpl EngineAccess EngineCall.Answer

/-- The scope of a `lock_guard` or a `unique_lock`. -/
def exclusively {α : Type} (mutex : EngineMutex) (body : EngineProgram α) : EngineProgram α :=
  body.guarded { mutex, mode := .exclusive }

/-- The scope of a `shared_lock`. -/
def jointly {α : Type} (mutex : EngineMutex) (body : EngineProgram α) : EngineProgram α :=
  body.guarded { mutex, mode := .shared }

namespace LockedEngine

open Program (read write visit request)

section Calls

variable (port : PortId)

def providerCurrent : EngineProgram ProviderAnswer := request (EngineCall.providerCurrent port)

def adapterApply (configuration : PortConfiguration) : EngineProgram AdapterApplyResult :=
  request (EngineCall.adapterApply port configuration)

def adapterReadback : EngineProgram AdapterReadback := request (EngineCall.adapterReadback port)

def adapterLabel : EngineProgram Unit := request EngineCall.adapterLabel

def storeSave (state : PersistedState) : EngineProgram StoreAnswers :=
  request (EngineCall.storeSave state)

def storeLoad : EngineProgram (Except Outcome PersistedState) := request EngineCall.storeLoad

end Calls

variable (runtime : Runtime)

section Persistence

def gatherState : EngineProgram PersistedState := do
  let gathered ← exclusively .authority <| read .plain fun impl =>
    { fabric := runtime.config.fabric
      site := runtime.config.site
      epoch := impl.epoch
      topology := impl.topology
      publishers := impl.publishers.toList.map Prod.snd
      devices := impl.devices.toList.map Prod.snd : PersistedState }
  let profiles ← exclusively .profiles <| read .plain fun impl => impl.profiles.list
  jointly .records <| read .plain fun impl =>
    { gathered with
      profiles
      engineGeneration := impl.generation
      records := impl.records.toList.map Prod.snd }

def storeState (state : PersistedState) : EngineProgram Outcome :=
  exclusively .persistence do
    let answers ← storeSave state
    let written := savePersistedState state answers
    write .plain fun impl => { impl with durabilityDirty := !written.isOk }
    return written

def persistLockedState : EngineProgram Outcome := do
  let (mode, path) ← exclusively .authority <| read .plain fun _ =>
    (runtime.config.persistence, runtime.config.persistencePath)
  if mode ≠ .automatic then
    return .success "persistence is manual"
  else if path.isEmpty then
    return .failure .persistenceIoFailure
      "automatic persistence is enabled without a container path"
  else
    let state ← gatherState runtime
    storeState state

def save : EngineProgram Outcome := do
  if runtime.config.persistencePath.isEmpty then
    return .failure .persistenceIoFailure "no persistence container path is configured"
  else
    let state ← gatherState runtime
    storeState state

/-- The authority section of a load, which refuses an epoch that cannot advance. -/
def restoreAuthority (state : PersistedState) : EngineProgram (Option Outcome) :=
  exclusively .authority <| visit .plain fun impl =>
    if impl.epoch ≤ state.epoch then
      if state.epoch.exhaustible then
        (impl, some (.failure .resourceBoundExceeded
          "the persisted coordinator epoch can no longer advance"))
      else
        (impl.recoverAuthority state state.epoch.next, none)
    else
      (impl.recoverAuthority state impl.epoch, none)

def load : EngineProgram Outcome := do
  if runtime.config.persistencePath.isEmpty then
    return .failure .persistenceIoFailure "no persistence container path is configured"
  else
  match ← exclusively .persistence storeLoad with
  | .error outcome => return outcome
  | .ok state =>
  match EngineImpl.acceptContainer runtime.config state with
  | .error outcome => return outcome
  | .ok () =>
  let restored ← exclusively .profiles <| visit .plain fun impl =>
    let restored := restoreProfiles ∅ (state.profiles.insertionSort profileBefore)
    ({ impl with profiles := restored.1 }, restored.2)
  match restored with
  | some failure => return failure
  | none =>
  match ← restoreAuthority state with
  | some failure => return failure
  | none => exclusively .records <| visit .plain fun impl => impl.recoverRecords state

end Persistence

section Authority

def beginEpoch : EngineProgram Outcome :=
  exclusively .authority do
    let epoch ← read .plain EngineImpl.epoch
    if !epoch.valid then
      return .failure .internalError "the coordinator epoch is not established"
    else if epoch.exhaustible then
      return .failure .resourceBoundExceeded "the coordinator epoch can no longer advance"
    else
      write .plain fun impl =>
        { impl with
          epoch := epoch.next
          publishers := impl.publishers.map fun _ publisher =>
            EngineImpl.fencedBefore epoch.next publisher }
      exclusively .records <| write .plain fun impl => impl.releaseOwnershipBeforeEpoch epoch.next
      return .success "coordinator epoch advanced"

def registerPublisher (publisher : PublisherId) (boot : WorkerBootId) (epoch : CoordinatorEpoch) :
    EngineProgram Outcome :=
  if !publisher.valid || !boot.valid || !epoch.valid then
    return .failure .malformedRequest "the publisher registration is incomplete"
  else
    exclusively .authority <| visit .plain fun impl =>
      PortFabricEngine.registerPublisher impl publisher boot epoch

def fencePublisher (publisher : PublisherId) (boot : WorkerBootId) : EngineProgram Outcome :=
  if !publisher.valid then
    return .failure .malformedRequest "the publisher identity is missing"
  else
    exclusively .authority do
      match ← read .plain fun impl => impl.publishers[publisher]? with
      | none => return .failure .unknownPublisher "the publisher is not registered"
      | some existing =>
          if boot.valid && existing.boot ≠ boot then
            return .failure .staleWorkerBoot "the publisher is running a different worker boot"
          else if existing.fenced then
            return .current "the publisher incarnation is already fenced"
          else
            write .plain fun impl =>
              { impl with
                publishers := impl.publishers.insert publisher { existing with fenced := true } }
            exclusively .records <| write .plain fun impl =>
              impl.releaseOwnershipOf existing.publisher existing.boot
            return .success "publisher incarnation fenced"

def registerDevice (device : DeviceId) (generation : DeviceGeneration) (source : Text) :
    EngineProgram Outcome :=
  if !device.valid || !generation.valid then
    return .failure .malformedRequest "the device generation registration is incomplete"
  else
  match validateText source maxNameLength with
  | .error error => return .failure .invalidText error
  | .ok () =>
    exclusively .authority <| visit .plain fun impl =>
      PortFabricEngine.registerDevice runtime impl device generation source

def setTopologyGeneration (generation : TopologyGeneration) : EngineProgram Outcome :=
  if !generation.valid then
    return .failure .malformedRequest "the topology generation is missing"
  else
    exclusively .authority <| visit .plain fun impl =>
      PortFabricEngine.setTopologyGeneration impl generation

def defineProfile (profile : PortProfile) : EngineProgram Outcome :=
  exclusively .profiles <| visit .plain fun impl => PortFabricEngine.defineProfile impl profile

/-- The flag is atomic; no lock guards it. -/
def shutdown : EngineProgram Unit :=
  write .plain PortFabricEngine.shutdown

end Authority

section Mutations

/-- The provider is asked only where the record carries no evidence. -/
def resolveCapabilities (record : PortRecord) :
    EngineProgram (Except Outcome CapabilityBinding) := do
  if record.capability.present || !runtime.capabilityProvider then
    return PortFabric.resolveCapabilities runtime record {}
  else
    let answer ← providerCurrent record.port
    return PortFabric.resolveCapabilities runtime record answer

/-- Where the lookup finds the record, the label of an adapter is asked for inside the scope. -/
def recordApplyUncertainty (port : PortId) (authority : AuthorityContext)
    (generation : PortConfigurationGeneration) (outcome : AppliedOutcome) (detail : Text)
    (code : OutcomeCode) : EngineProgram MutationResult := do
  let recorded ← exclusively .records do
    match ← read (.uncertaintyLookup port) fun impl => impl.records[port]? with
    | none => return false
    | some before =>
        if runtime.adapter.isSome then
          adapterLabel
        write .plain fun impl =>
          impl.replaceRecord port before
            (before.uncertain runtime authority generation outcome detail)
        return true
  if recorded then
    let _ ← persistLockedState runtime
  return .rejected code detail

def commit (port : PortId) (plan : MutationPlan) (applied : AppliedEvidence)
    (appliedSettled : Bool) : EngineProgram MutationResult := do
  let decided ← exclusively .records <| visit .plain fun impl =>
    match impl.commitRecord port plan applied appliedSettled with
    | .error result => (impl, some result)
    | .ok committed => (committed, none)
  match decided with
  | some result => return result
  | none =>
      let persisted ← persistLockedState runtime
      return EngineImpl.commitResult
        (EngineImpl.committedRecord plan applied appliedSettled) persisted

def expectTopology (mutation : Mutation) : EngineProgram (Except Reply Unit) :=
  if mutation.authority.expectedTopology.valid then
    exclusively .authority <| read .plain fun impl => PortFabric.expectTopology impl mutation
  else
    return .ok ()

def evidenceFor (mutation : Mutation) (snapshot : PortRecord) :
    EngineProgram (Except Reply CapabilityBinding) := do
  if needsConfigurationExpectation mutation.kind then
    match ← resolveCapabilities runtime snapshot with
    | .error outcome => return .error (.result { outcome })
    | .ok binding => return .ok binding
  else
    return .ok {}

def preparePlan (mutation : Mutation) (snapshot : PortRecord) (context : MutationContext) :
    ExceptT Reply EngineProgram MutationPlan := do
  let capability ← ExceptT.mk (evidenceFor runtime mutation snapshot)
  let plan ← ExceptT.mk <| exclusively .profiles <| read .plain fun impl =>
    (mutation.build
      { current := snapshot, topology := context.topology,
        parentDeviceGeneration := context.deviceGeneration, capability,
        profiles := impl.profiles }).mapError (planReply snapshot)
  ExceptT.mk (pure (validatePlan snapshot plan))
  return stampPlan mutation plan

/-- The phases up to the plan; each reads the state in the scope of its own locks. -/
def planMutation (mutation : Mutation) :
    ExceptT Reply EngineProgram (PortRecord × MutationPlan) := do
  let snapshot ← ExceptT.mk <| exclusively .profiles <| jointly .records <|
    read .plain fun impl => observe impl mutation
  ExceptT.mk (expectTopology mutation)
  ExceptT.mk (pure (snapshotGates runtime.config mutation snapshot))
  let context ← ExceptT.lift <| exclusively .authority <| read .plain fun impl =>
    readContext impl snapshot
  ExceptT.mk (pure (deviceGate mutation snapshot context))
  let plan ← preparePlan runtime mutation snapshot context
  return (snapshot, plan)

/-- The adapter phase: the label is asked for after the apply, and again for a failed one. -/
def applyPlan (port : PortId) (snapshot : PortRecord) (plan : MutationPlan) :
    EngineProgram ApplyDecision := do
  if !plan.requiresApply || runtime.config.adapterPolicy = .desiredStateOnly ||
      runtime.adapter.isNone then
    return PortFabric.applyPlan runtime snapshot plan {}
  else
    let apply ← adapterApply port plan.applyConfiguration
    adapterLabel
    if apply.status = .failed then
      adapterLabel
      return PortFabric.applyPlan runtime snapshot plan { apply }
    else if apply.status = .applied && runtime.config.adapterPolicy = .applyAndVerify then
      let readback ← adapterReadback port
      return PortFabric.applyPlan runtime snapshot plan { apply, readback }
    else
      return PortFabric.applyPlan runtime snapshot plan { apply }

def concludeMutation (mutation : Mutation) (decision : ApplyDecision) : EngineProgram Reply := do
  match decision with
  | .reject reply => return reply
  | .commit plan applied settled =>
      let result ← commit runtime mutation.port plan applied settled
      return .result result
  | .uncertain generation detail code reply =>
      let result ← recordApplyUncertainty runtime mutation.port mutation.authority generation
        .outcomeUnknown detail code
      return .result (reply.getD result)

def attemptMutation (mutation : Mutation) : ExceptT Reply EngineProgram Reply := do
  ExceptT.mk (read .plain fun impl => admitMutation impl mutation)
  ExceptT.mk <| exclusively .authority <| visit .plain fun impl => authorise runtime impl mutation
  let (snapshot, plan) ← planMutation runtime mutation
  let decision ← ExceptT.lift (applyPlan runtime mutation.port snapshot plan)
  ExceptT.lift (concludeMutation runtime mutation decision)

def executeMutation (mutation : Mutation) : EngineProgram Reply := do
  match ← (attemptMutation runtime mutation).run with
  | .error reply => return reply
  | .ok reply => return reply

end Mutations

section Binding

/-- The lookup that precedes a binding; the scope of its lock includes the provider's call. -/
def probeCapabilities (request : PortBindingRequest) : EngineProgram (Option CapabilityBinding) :=
  jointly .records do
    if ← read (.bindingLookup request.port) fun impl => (impl.records[request.port]?).isSome then
      return none
    else
      match ← resolveCapabilities runtime
          { port := request.port, parentDevice := request.parentDevice } with
      | .error _ => return none
      | .ok binding => return if binding.present then some binding else none

def insertBinding (request : PortBindingRequest) (evidence : Option CapabilityBinding) :
    EngineProgram (Except MutationResult Unit) :=
  exclusively .records <| visit .plain fun impl =>
    match PortFabric.insertBinding runtime impl request evidence with
    | .error result => (impl, .error result)
    | .ok inserted => (inserted, .ok ())

/-- The device section; a roll-back takes the records lock inside it. -/
def bindDevice (request : PortBindingRequest) (record : PortRecord) :
    EngineProgram (Except MutationResult Unit) :=
  exclusively .authority do
    let rollsBack ← read .plain fun impl =>
      (impl.devices[request.parentDevice]?).any fun existing =>
        request.deviceGeneration < existing.generation
    let bind := visit .plain fun impl =>
      let bound := PortFabric.bindDevice runtime impl request record
      (bound.1, match bound.2 with | some result => .error result | none => .ok ())
    if rollsBack then exclusively .records bind else bind

def attemptBinding (request : PortBindingRequest) :
    ExceptT MutationResult EngineProgram MutationResult := do
  -- Of the admission only the comparison of the epoch is made under the lock.
  ExceptT.mk (read .plain fun impl => admitBinding { impl with epoch := request.epoch } request)
  ExceptT.mk <| exclusively .authority <| read .plain fun impl => admitBinding impl request
  let evidence ← ExceptT.lift (probeCapabilities runtime request)
  ExceptT.mk (insertBinding runtime request evidence)
  let record := boundRecord request evidence
  ExceptT.mk (bindDevice runtime request record)
  let _ ← ExceptT.lift (persistLockedState runtime)
  return { MutationResult.reporting (.success "canonical port identity bound") record with
    ownershipGeneration := .null }

def bindPort (request : PortBindingRequest) : EngineProgram MutationResult := do
  match ← (attemptBinding runtime request).run with
  | .error result => return result
  | .ok result => return result

end Binding

section Queries

/-- A query under the records lock, with what it computes from the state. -/
def recordsQuery {α : Type} (view : EngineImpl → α) : EngineProgram α :=
  jointly .records <| read .plain view

def authorityQuery {α : Type} (view : EngineImpl → α) : EngineProgram α :=
  exclusively .authority <| read .plain view

def profilesQuery {α : Type} (view : EngineImpl → α) : EngineProgram α :=
  exclusively .profiles <| read .plain view

def portsWithStaleProfileBinding : EngineProgram (List PortId) :=
  exclusively .profiles <| jointly .records <|
    read .plain PortFabricEngine.portsWithStaleProfileBinding

/-- `explain`, `snapshot` and `snapshot_of` read the records, and then the authority tables. -/
def describing {α β : Type} (records : EngineImpl → α) (authority : EngineImpl → β) :
    EngineProgram (α × β) := do
  let recorded ← recordsQuery records
  let context ← authorityQuery authority
  return (recorded, context)

end Queries

end LockedEngine

/-- The queries of the engine, by the locks they take and what they read under them. -/
inductive EngineQuery where
  /-- `port_count`, `contains`, `record` and every other query of the records or their indexes. -/
  | records
  /-- `epoch`, `topology_generation`, the devices and the publishers. -/
  | authority
  /-- `profile`, `latest_profile`, `profiles` and `profile_count`. -/
  | profiles
  | staleProfileBindings
  /-- `explain`, `snapshot` and `snapshot_of`. -/
  | described
  /-- The flag is atomic. -/
  | shuttingDown

/-- A call of a public method of the engine. -/
inductive EngineMethod where
  | operation (performed : Operation)
  | query (asked : EngineQuery)

/-- The program of an operation; what the outside answers comes with its steps. -/
def Operation.program (runtime : Runtime) : Operation → EngineProgram Unit
  | bindPort request _ => do let _ ← LockedEngine.bindPort runtime request
  | mutate mutation _ => do let _ ← LockedEngine.executeMutation runtime mutation
  | defineProfile profile => do let _ ← LockedEngine.defineProfile profile
  | beginEpoch => do let _ ← LockedEngine.beginEpoch
  | registerPublisher publisher boot epoch => do
      let _ ← LockedEngine.registerPublisher publisher boot epoch
  | fencePublisher publisher boot => do let _ ← LockedEngine.fencePublisher publisher boot
  | registerDevice device generation source => do
      let _ ← LockedEngine.registerDevice runtime device generation source
  | setTopologyGeneration generation => do
      let _ ← LockedEngine.setTopologyGeneration generation
  | save _ => do let _ ← LockedEngine.save runtime
  | load _ => do let _ ← LockedEngine.load runtime
  | shutdown => LockedEngine.shutdown

open LockedEngine in
def EngineQuery.program : EngineQuery → EngineProgram Unit
  | records => do let _ ← recordsQuery fun impl => (impl.records, impl.indexes, impl.generation)
  | authority => do
      let _ ← authorityQuery fun impl =>
        (impl.epoch, impl.topology, impl.publishers, impl.devices)
  | profiles => do let _ ← profilesQuery fun impl => impl.profiles
  | staleProfileBindings => do let _ ← portsWithStaleProfileBinding
  | described => do
      let _ ← describing (fun impl => (impl.records, impl.generation))
        fun impl => (impl.epoch, impl.topology)
  | shuttingDown => do let _ ← Program.read .plain EngineImpl.shuttingDown

def EngineMethod.program (runtime : Runtime) : EngineMethod → EngineProgram Unit
  | operation performed => performed.program runtime
  | query asked => asked.program

/-- One answer to every call an operation can make. -/
structure CallAnswers extends MutationAnswers where
  container : Except Outcome PersistedState := .error .success

def CallAnswers.answer (answers : CallAnswers) : (call : EngineCall) → call.Answer
  | .providerCurrent _ => answers.provider
  | .adapterApply _ _ => answers.apply
  | .adapterReadback _ => answers.readback
  | .adapterLabel => ()
  | .storeSave _ => answers.store
  | .storeLoad => answers.container

/-- What the outside answers in the sequential operation. -/
def Operation.answers : Operation → CallAnswers
  | bindPort _ answers | mutate _ answers => { answers with }
  | save store => { store }
  | load container => { container }
  | _ => {}

end PortFabric
