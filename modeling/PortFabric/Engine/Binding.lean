import PortFabric.Engine.Mutation

/-!
# Port binding

`bind_port`: the record is inserted first and removed again when the parent
device turns out to have been replaced.
-/

set_option autoImplicit false

namespace PortFabric

/-- Evidence a provider supplies for a port that is not bound yet. -/
def probeCapabilities (runtime : Runtime) (impl : EngineImpl) (request : PortBindingRequest)
    (answer : ProviderAnswer) : Option CapabilityBinding :=
  if (impl.records[request.port]?).isSome then
    none
  else
    match resolveCapabilities runtime { port := request.port, parentDevice := request.parentDevice }
        answer with
    | .error _ => none
    | .ok binding => if binding.present then some binding else none

def boundRecord (request : PortBindingRequest) (evidence : Option CapabilityBinding) :
    PortRecord where
  port := request.port
  parentDevice := request.parentDevice
  capability := evidence.getD {}
  generations :=
    { device := request.deviceGeneration
      lifecycle := .first
      capability := (evidence.map CapabilityBinding.generation).getD .null
      evidence := (evidence.map CapabilityBinding.evidenceGeneration).getD .null }
  provenance :=
    { kind := if request.provenanceKind = .unknown then .operator else request.provenanceKind
      source := request.provenanceSource
      epoch := request.epoch
      attempt := request.attempt }
  lastMutation :=
    { attempt := request.attempt
      payloadDigest := payloadDigestOf (digestBytes
        (request.port.value ++ text "|" ++ request.parentDevice.value ++ text "|" ++
          text "BIND_PORT")) }
  statusReason := "BOUND"

def admitBinding (impl : EngineImpl) (request : PortBindingRequest) : Except MutationResult Unit :=
  if impl.shuttingDown then
    .error (.rejected .shuttingDown "the runtime is shutting down")
  else if !request.port.valid || !request.parentDevice.valid ||
      !request.deviceGeneration.valid || !request.attempt.valid then
    .error (.rejected .malformedRequest
      ("binding requires a port identity, a parent device, a device generation and an attempt " ++
        "identity" : String))
  else if request.entityClass ≠ .unknown && !request.entityClass.isValid then
    .error (.rejected .wrongEntityClass "the entity class is not a legal value")
  else if request.epoch ≠ impl.epoch then
    .error (.rejected .staleCoordinatorEpoch
      "the binding carries a coordinator epoch that is not current")
  else
    .ok ()

def existingBinding (existing : PortRecord) (request : PortBindingRequest) : MutationResult :=
  if existing.parentDevice ≠ request.parentDevice then
    { outcome :=
        ((Outcome.failure .conflictDetected
          "the canonical port identity is already bound to a different parent device").withDetail
          "bound_parent" existing.parentDevice.value).withDetail
          "requested_parent" request.parentDevice.value }
  else if existing.lastMutation.valid ∧ existing.lastMutation.attempt = request.attempt then
    { MutationResult.reporting (.idempotent "the binding attempt is already committed")
        existing with
      ownershipGeneration := .null }
  else
    { MutationResult.reporting (.current "the canonical port identity is already bound")
        existing with
      ownershipGeneration := .null }

/-- The records critical section: the new record and its index entries are inserted. -/
def insertBinding (runtime : Runtime) (impl : EngineImpl) (request : PortBindingRequest)
    (evidence : Option CapabilityBinding) : Except MutationResult EngineImpl :=
  match impl.records[request.port]? with
  | some existing => .error (existingBinding existing request)
  | none =>
      if impl.records.size ≥ runtime.config.portBound then
        .error (.rejected .resourceBoundExceeded "the runtime is at its configured port bound")
      else
        let record := boundRecord request evidence
        match record.validate with
        | .error error => .error (.rejected .invalidConfiguration error)
        | .ok () =>
            .ok
              { impl with
                records := impl.records.insert request.port record
                indexes := impl.indexes.indexAdd record
                generation := impl.generation.advance }

/-- The device critical section; a newer device generation undoes the insertion. -/
def bindDevice (runtime : Runtime) (impl : EngineImpl) (request : PortBindingRequest)
    (record : PortRecord) : EngineImpl × Option MutationResult :=
  let device : DeviceBinding :=
    { device := request.parentDevice, generation := request.deviceGeneration,
      source := request.provenanceSource }
  match impl.devices[request.parentDevice]? with
  | none =>
      if impl.devices.size ≥ runtime.config.deviceBound then
        -- The record stays inserted here.
        (impl, some (.rejected .resourceBoundExceeded
          "the device table is at its configured bound"))
      else
        ({ impl with devices := impl.devices.insert request.parentDevice device }, none)
  | some existing =>
      if existing.generation < request.deviceGeneration then
        ({ impl with
            devices := impl.devices.insert request.parentDevice
              { existing with generation := device.generation, source := device.source } }, none)
      else if request.deviceGeneration < existing.generation then
        -- The engine generation the insertion advanced is not taken back.
        ({ impl with
            records := impl.records.erase request.port
            indexes := impl.indexes.indexRemove record },
          some (.rejected .staleDeviceGeneration
            "the device has been replaced by a newer generation"))
      else
        (impl, none)

namespace PortFabricEngine

def bindPort (runtime : Runtime) (impl : EngineImpl) (request : PortBindingRequest)
    (answers : MutationAnswers) : EngineImpl × MutationResult :=
  match admitBinding impl request with
  | .error result => (impl, result)
  | .ok () =>
  let evidence := probeCapabilities runtime impl request answers.provider
  match insertBinding runtime impl request evidence with
  | .error result => (impl, result)
  | .ok inserted =>
  let record := boundRecord request evidence
  match bindDevice runtime inserted request record with
  | (settled, some result) => (settled, result)
  | (settled, none) =>
      ((settled.persistLockedState runtime answers.store).1,
        { MutationResult.reporting (.success "canonical port identity bound") record with
          ownershipGeneration := .null })

end PortFabricEngine

end PortFabric
