import PortFabric.Library.Differences
import PortFabric.Rendering

/-!
# Diffs

What differs between two configurations or two records, one entry for a changed
dimension, in the order of the dimensions.
-/

set_option autoImplicit false

namespace PortFabric

/-- The dimensions of a diff; their order is the order of its entries. -/
inductive DiffField where
  | lifecycle | administrative | portMode | protocolFamily | speed | laneConfiguration | mtu
  | duplex | fec | autoneg | pause | breakout | logicalDerivation | aggregation | profile | role
  | ownership | capabilityBinding | deviceGeneration | topologyGeneration | appliedEvidence | drift
  deriving DecidableEq, Repr

namespace DiffField

/-- The byte of the enumerator. -/
def byte : DiffField → Nat
  | lifecycle => 0
  | administrative => 1
  | portMode => 2
  | protocolFamily => 3
  | speed => 4
  | laneConfiguration => 5
  | mtu => 6
  | duplex => 7
  | fec => 8
  | autoneg => 9
  | pause => 10
  | breakout => 11
  | logicalDerivation => 12
  | aggregation => 13
  | profile => 14
  | role => 15
  | ownership => 16
  | capabilityBinding => 17
  | deviceGeneration => 18
  | topologyGeneration => 19
  | appliedEvidence => 20
  | drift => 21

/-- The dimensions that a configuration does not have. -/
def isRecordField (field : DiffField) : Bool :=
  field = lifecycle || field = ownership || field = appliedEvidence || field = drift

end DiffField

abbrev DiffEntry := Differences.Entry DiffField Text

def addIfChanged (entries : List DiffEntry) (field : DiffField) (before after : Text) :
    List DiffEntry :=
  if before = after then entries else entries ++ [⟨field, before, after⟩]

def sortEntries (entries : List DiffEntry) : List DiffEntry :=
  Differences.sorted DiffField.byte entries

def renderConfigurationField (configuration : PortConfiguration) : DiffField → Text
  | .administrative => configuration.administrative.toText
  | .portMode => configuration.mode.toText
  | .protocolFamily => configuration.protocol.toText
  | .speed => configuration.speed.toText
  | .laneConfiguration => configuration.lanes.toText
  | .mtu => configuration.mtu.toText
  | .duplex => configuration.duplex.toText
  | .fec => configuration.fec.toText
  | .autoneg => configuration.autoneg.toText
  | .pause => configuration.pause.toText
  | .breakout => configuration.breakout.toText
  | .logicalDerivation =>
      configuration.logicalIdentity.valueOrNone ++ text "->" ++
        configuration.derivedFrom.valueOrNone ++ text "#" ++
        formatU64 configuration.childIndex.toNat
  | .aggregation => configuration.aggregation.toText
  | .profile => configuration.profile.toText
  | .role => configuration.role
  | .capabilityBinding => configuration.capabilityGeneration.formatOrNone
  | .deviceGeneration => configuration.deviceGeneration.formatOrNone
  | .topologyGeneration => configuration.topologyGeneration.formatOrNone
  | .lifecycle | .ownership | .appliedEvidence | .drift => []

def configurationFields : List DiffField :=
  [ .lifecycle, .administrative, .portMode, .protocolFamily, .speed, .laneConfiguration, .mtu,
    .duplex, .fec, .autoneg, .pause, .breakout, .logicalDerivation, .aggregation, .profile, .role,
    .ownership, .capabilityBinding, .deviceGeneration, .topologyGeneration, .appliedEvidence,
    .drift ]

/-- The loop over the configuration dimensions, for two ways to render them. -/
def diffRendered (before after : DiffField → Text) : List DiffEntry :=
  configurationFields.foldl
    (fun entries field =>
      if field.isRecordField then entries
      else addIfChanged entries field (before field) (after field)) []

def diffConfigurations (before after : PortConfiguration) : List DiffEntry :=
  sortEntries (diffRendered (renderConfigurationField before) (renderConfigurationField after))

/-- The rendering of an ownership, or of its absence. -/
def renderOwnership (record : PortRecord) : Text :=
  match record.ownership with
  | some ownership => ownership.toText
  | none => "unowned"

/-- The configuration part of a record diff; each of its branches is one of the source's. -/
def diffPresence (before after : Option PortConfiguration) : List DiffEntry :=
  match before, after with
  | some former, some latter => diffConfigurations former latter
  | none, some latter => diffRendered (fun _ => text "absent") (renderConfigurationField latter)
  | some former, none => diffRendered (renderConfigurationField former) (fun _ => text "absent")
  | none, none => []

def diffRecords (before after : PortRecord) : List DiffEntry :=
  let entries := diffPresence before.configuration after.configuration
  let entries := addIfChanged entries .lifecycle before.lifecycle.toText after.lifecycle.toText
  let entries := addIfChanged entries .ownership (renderOwnership before) (renderOwnership after)
  let entries :=
    addIfChanged entries .appliedEvidence before.applied.toText after.applied.toText
  let entries := addIfChanged entries .drift before.drift.toText after.drift.toText
  let entries := addIfChanged entries .capabilityBinding
    before.capability.generation.formatOrNone after.capability.generation.formatOrNone
  sortEntries entries

end PortFabric
