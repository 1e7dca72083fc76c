import PortFabric.Record

/-!
# Renderings

The texts that show values to a reader.
-/

set_option autoImplicit false

namespace PortFabric

def StrongId.valueOrNone {domain : IdDomain} (id : StrongId domain) : Text :=
  if id.valid then id.value else "none"

/-- A labelled part that is left out when there is nothing to show. -/
def renderPresent (label : Text) (present : Bool) (value : Text) : Text :=
  if present then label ++ value else []

namespace Provenance

def toText (provenance : Provenance) : Text :=
  provenance.kind.toText ++
    renderPresent (text "(") (!provenance.source.isEmpty) (provenance.source ++ text ")") ++
    renderPresent (text " publisher=") provenance.publisher.valid provenance.publisher.value ++
    renderPresent (text " boot=") provenance.boot.valid provenance.boot.value ++
    renderPresent (text " epoch=") provenance.epoch.valid provenance.epoch.format ++
    renderPresent (text " attempt=") provenance.attempt.valid provenance.attempt.value

end Provenance

namespace PortConfiguration

def toText (configuration : PortConfiguration) : Text :=
  text "record=" ++ configuration.record.valueOrNone ++
  text " port=" ++ configuration.port.valueOrNone ++
  text " parent=" ++ configuration.parentDevice.valueOrNone ++
  text " device_generation=" ++ configuration.deviceGeneration.formatOrNone ++
  text " topology_generation=" ++ configuration.topologyGeneration.formatOrNone ++
  text " generation=" ++ configuration.generation.formatOrNone ++
  text " administrative=" ++ configuration.administrative.toText ++
  text " mode=" ++ configuration.mode.toText ++
  text " protocol=" ++ configuration.protocol.toText ++
  text " speed=" ++ configuration.speed.toText ++
  text " duplex=" ++ configuration.duplex.toText ++
  text " mtu=" ++ configuration.mtu.toText ++
  text " lanes=" ++ configuration.lanes.toText ++
  text " breakout=" ++ configuration.breakout.toText ++
  text " autoneg=" ++ configuration.autoneg.toText ++
  text " fec=" ++ configuration.fec.toText ++
  text " pause=" ++ configuration.pause.toText ++
  text " aggregation=" ++ configuration.aggregation.toText ++
  text " profile=" ++ configuration.profile.toText ++
  text " role=" ++ (if configuration.role.isEmpty then text "none" else configuration.role) ++
  text " logical=" ++ configuration.logicalIdentity.valueOrNone ++
  text " derived_from=" ++ configuration.derivedFrom.valueOrNone ++
  text " child_index=" ++ formatU64 configuration.childIndex.toNat ++
  text " capability_generation=" ++ configuration.capabilityGeneration.formatOrNone ++
  text " evidence_generation=" ++ configuration.evidenceGeneration.formatOrNone ++
  text " provenance=" ++ configuration.provenance.toText

end PortConfiguration

namespace CapabilityBinding

def toText (binding : CapabilityBinding) : Text :=
  if !binding.present then
    "unbound"
  else
    text "generation=" ++ binding.generation.format ++
    text " evidence_generation=" ++ binding.evidenceGeneration.format ++
    text " source=" ++ (if binding.source.isEmpty then text "unspecified" else binding.source) ++
    text " " ++ binding.capabilities.toText

end CapabilityBinding

namespace AppliedEvidence

def toText (evidence : AppliedEvidence) : Text :=
  evidence.outcome.toText ++
  text " generation=" ++ evidence.generation.formatOrNone ++
  text " evidence_generation=" ++ evidence.evidenceGeneration.formatOrNone ++
  text " verified=" ++ formatBool evidence.verified ++
  renderPresent (text " source=") (!evidence.source.isEmpty) evidence.source

end AppliedEvidence

namespace GenerationVector

def toText (generations : GenerationVector) : Text :=
  text "configuration=" ++ generations.configuration.formatOrNone ++
  text " administrative=" ++ generations.administrative.formatOrNone ++
  text " ownership=" ++ generations.ownership.formatOrNone ++
  text " capability=" ++ generations.capability.formatOrNone ++
  text " topology=" ++ generations.topology.formatOrNone ++
  text " device=" ++ generations.device.formatOrNone ++
  text " lifecycle=" ++ generations.lifecycle.formatOrNone ++
  text " evidence=" ++ generations.evidence.formatOrNone

end GenerationVector

namespace LastMutationRecord

def toText (last : LastMutationRecord) : Text :=
  if !last.valid then
    "none"
  else
    last.attempt.value ++ text " payload=" ++ formatU64 last.payloadDigest.toNat ++
    text " result_generation=" ++ last.resultGeneration.formatOrNone

end LastMutationRecord

namespace PortRecord

def toText (record : PortRecord) : Text :=
  text "port=" ++ record.port.valueOrNone ++
  text " parent=" ++ record.parentDevice.valueOrNone ++
  text " lifecycle=" ++ record.lifecycle.toText ++
  text " drift=" ++ record.drift.toText ++
  text " configuration=" ++ record.configuration.elim (text "none") PortConfiguration.toText ++
  text " ownership=" ++ record.ownership.elim (text "unowned") PortOwnership.toText ++
  text " capability=" ++ record.capability.toText ++
  text " applied=" ++ record.applied.toText ++
  text " generations=" ++ record.generations.toText ++
  text " last_mutation=" ++ record.lastMutation.toText ++
  renderPresent (text " status=") (!record.statusReason.isEmpty) record.statusReason

end PortRecord

end PortFabric
