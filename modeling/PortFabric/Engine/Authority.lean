import PortFabric.Engine.Request

/-!
# Authority registry

The authority gate of every mutation, the publisher and device tables, and the
release of ownership when an incarnation ends.
-/

set_option autoImplicit false

namespace PortFabric

namespace PortRecord

def released (record : PortRecord) (reason detail : Text) : PortRecord :=
  { record with
    generations :=
      { record.generations with ownership := record.generations.ownership.advance }
    ownership := none
    statusReason := reason
    statusDetail := detail }

def ownedBy (record : PortRecord) (publisher : PublisherId) (boot : WorkerBootId) : Bool :=
  record.ownership.any fun ownership =>
    ownership.publisher = publisher && ownership.boot = boot

def ownedBefore (record : PortRecord) (epoch : CoordinatorEpoch) : Bool :=
  record.ownership.any fun ownership => ownership.epoch < epoch

end PortRecord

namespace EngineImpl

/-- The authority gate; an unknown publisher can be registered on first use. -/
def checkAuthority (runtime : Runtime) (impl : EngineImpl) (authority : AuthorityContext) :
    EngineImpl × Outcome :=
  if !authority.valid then
    (impl, .failure .malformedRequest
      ("the authority context is incomplete (epoch, publisher, boot and " ++
        "attempt identity are all required)" : String))
  else if authority.epoch ≠ impl.epoch then
    (impl, ((Outcome.failure .staleCoordinatorEpoch
      "the request carries a coordinator epoch that is not current").withDetail
      "current_epoch" impl.epoch.formatOrNone).withDetail
      "request_epoch" authority.epoch.format)
  else
  match impl.publishers[authority.publisher]? with
  | none =>
      if runtime.config.publisherRegistration = .explicit then
        (impl, (Outcome.failure .unknownPublisher "the publisher is not registered").withDetail
          "publisher" authority.publisher.value)
      else if impl.publishers.size ≥ maxPublishers then
        (impl, .failure .resourceBoundExceeded
          "the publisher table is at its configured bound")
      else
        ({ impl with
            publishers := impl.publishers.insert authority.publisher
              { publisher := authority.publisher, boot := authority.boot,
                epoch := authority.epoch } },
          .success)
  | some found =>
      if found.boot ≠ authority.boot then
        (impl, ((Outcome.failure .staleWorkerBoot
          ("the request carries a worker boot that is not the current " ++
            "incarnation of this publisher" : String)).withDetail
          "current_boot" found.boot.value).withDetail
          "request_boot" authority.boot.value)
      else if found.fenced then
        (impl, ((Outcome.failure .publisherFenced
          "the publisher incarnation is fenced and can never mutate again").withDetail
          "publisher" authority.publisher.value).withDetail
          "boot" authority.boot.value)
      else
        (impl, .success)

def releaseWhere (impl : EngineImpl) (held : PortRecord → Bool) (reason detail : Text) :
    EngineImpl :=
  let affected := (impl.records.toList.map Prod.snd).filter held
  { impl with
    records := impl.records.map fun _ record =>
      if held record then record.released reason detail else record
    indexes := affected.foldl
      (fun indexes record => indexes.indexUpdate record (record.released reason detail))
      impl.indexes
    generation := if affected.isEmpty then impl.generation else impl.generation.advance }

def releaseOwnershipOf (impl : EngineImpl) (publisher : PublisherId) (boot : WorkerBootId) :
    EngineImpl :=
  impl.releaseWhere (fun record => record.ownedBy publisher boot) "OWNERSHIP_FENCED"
    "ownership released when the holding incarnation was fenced"

def releaseOwnershipBeforeEpoch (impl : EngineImpl) (epoch : CoordinatorEpoch) : EngineImpl :=
  impl.releaseWhere (fun record => record.ownedBefore epoch) "OWNERSHIP_RELEASED_ON_RESTART"
    "ownership granted under an earlier coordinator epoch does not survive"

def fencedBefore (epoch : CoordinatorEpoch) (publisher : PublisherRecord) : PublisherRecord :=
  if publisher.epoch < epoch then { publisher with fenced := true } else publisher

end EngineImpl

namespace PortFabricEngine

def beginEpoch (impl : EngineImpl) : EngineImpl × Outcome :=
  if !impl.epoch.valid then
    (impl, .failure .internalError "the coordinator epoch is not established")
  else if impl.epoch.exhaustible then
    (impl, .failure .resourceBoundExceeded "the coordinator epoch can no longer advance")
  else
    let epoch := impl.epoch.next
    let fenced :=
      { impl with
        epoch
        publishers := impl.publishers.map fun _ publisher =>
          EngineImpl.fencedBefore epoch publisher }
    (fenced.releaseOwnershipBeforeEpoch epoch, .success "coordinator epoch advanced")

def registerPublisher (impl : EngineImpl) (publisher : PublisherId) (boot : WorkerBootId)
    (epoch : CoordinatorEpoch) : EngineImpl × Outcome :=
  let fresh : PublisherRecord := { publisher, boot, epoch }
  let reincarnated (existing : PublisherRecord) : EngineImpl × Outcome :=
    ({ impl with
        publishers := impl.publishers.insert publisher
          { existing with boot, epoch, fenced := false } },
      .success "publisher reincarnated under a fresh boot identity")
  let registered : EngineImpl × Outcome :=
    if impl.publishers.size ≥ maxPublishers then
      (impl, .failure .resourceBoundExceeded "the publisher table is at its configured bound")
    else
      ({ impl with publishers := impl.publishers.insert publisher fresh },
        .success "publisher registered")
  if !publisher.valid || !boot.valid || !epoch.valid then
    (impl, .failure .malformedRequest "the publisher registration is incomplete")
  else if epoch ≠ impl.epoch then
    (impl, .failure .staleCoordinatorEpoch
      "the publisher registered under a stale coordinator epoch")
  else
  match impl.publishers[publisher]? with
  | none => registered
  | some existing =>
      if existing.boot = boot then
        if existing.fenced then
          (impl, .failure .publisherFenced "the publisher incarnation is fenced")
        else
          (impl, .current "the publisher incarnation is already registered")
      else if existing.epoch = epoch then
        reincarnated existing
      else if existing.fenced then
        reincarnated existing
      else
        registered

def fencePublisher (impl : EngineImpl) (publisher : PublisherId) (boot : WorkerBootId) :
    EngineImpl × Outcome :=
  if !publisher.valid then
    (impl, .failure .malformedRequest "the publisher identity is missing")
  else
  match impl.publishers[publisher]? with
  | none => (impl, .failure .unknownPublisher "the publisher is not registered")
  | some existing =>
      if boot.valid && existing.boot ≠ boot then
        (impl, .failure .staleWorkerBoot "the publisher is running a different worker boot")
      else if existing.fenced then
        (impl, .current "the publisher incarnation is already fenced")
      else
        let fenced :=
          { impl with
            publishers := impl.publishers.insert publisher { existing with fenced := true } }
        (fenced.releaseOwnershipOf existing.publisher existing.boot,
          .success "publisher incarnation fenced")

def registerDevice (runtime : Runtime) (impl : EngineImpl) (device : DeviceId)
    (generation : DeviceGeneration) (source : Text) : EngineImpl × Outcome :=
  let recorded := { impl with devices := impl.devices.insert device { device, generation, source } }
  if !device.valid || !generation.valid then
    (impl, .failure .malformedRequest "the device generation registration is incomplete")
  else
  match validateText source maxNameLength with
  | .error error => (impl, .failure .invalidText error)
  | .ok () =>
  match impl.devices[device]? with
  | some existing =>
      if generation < existing.generation then
        (impl, .failure .staleDeviceGeneration
          "the device generation is older than the recorded generation")
      else if generation = existing.generation then
        (impl, .current "the device generation is already recorded")
      else if impl.devices.size > runtime.config.deviceBound then
        (impl, .failure .resourceBoundExceeded "the device table is at its configured bound")
      else
        ({ impl with
            devices := impl.devices.insert device { existing with generation, source } },
          .success "device generation advanced")
  | none =>
      if impl.devices.size ≥ runtime.config.deviceBound then
        (impl, .failure .resourceBoundExceeded "the device table is at its configured bound")
      else
        (recorded, .success "device generation recorded")

def setTopologyGeneration (impl : EngineImpl) (generation : TopologyGeneration) :
    EngineImpl × Outcome :=
  if !generation.valid then
    (impl, .failure .malformedRequest "the topology generation is missing")
  else if generation < impl.topology then
    (impl, .failure .staleTopologyGeneration
      "the topology generation is older than the recorded generation")
  else if generation = impl.topology then
    (impl, .current "the topology generation is already recorded")
  else
    ({ impl with topology := generation }, .success "topology generation advanced")

def defineProfile (impl : EngineImpl) (profile : PortProfile) : EngineImpl × Outcome :=
  let defined := impl.profiles.define profile
  ({ impl with profiles := defined.1 }, defined.2)

def shutdown (impl : EngineImpl) : EngineImpl :=
  { impl with shuttingDown := true }

end PortFabricEngine

end PortFabric
