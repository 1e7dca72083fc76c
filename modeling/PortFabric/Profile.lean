import PortFabric.Digest

/-!
# Profiles

Reusable configuration bundles and the registry of their generations.
-/

set_option autoImplicit false

namespace PortFabric

/-- A dimension the profile specifies overrides the configuration; others are kept. -/
structure ProfileConfiguration where
  specifiesSpeed : Bool := false
  speed : SpeedSetting := {}
  specifiesMtu : Bool := false
  mtu : Mtu := .unspecified
  specifiesDuplex : Bool := false
  duplex : DuplexMode := .unknown
  specifiesAutoneg : Bool := false
  autoneg : AutonegPolicy := .unknown
  specifiesFec : Bool := false
  fec : FecMode := .unknown
  specifiesPause : Bool := false
  pause : PauseMode := .unknown
  specifiesBreakout : Bool := false
  breakout : BreakoutMode := .none
  specifiesMode : Bool := false
  mode : PortMode := .physical
  specifiesProtocol : Bool := false
  protocol : ProtocolFamily := .unknown
  specifiesAggregation : Bool := false
  aggregateParticipation : Bool := false
  specifiesRole : Bool := false
  role : Text := []
  deriving DecidableEq

namespace ProfileConfiguration

open Checks

def validate (profile : ProfileConfiguration) : Except Text Unit :=
  refuseIf (profile.specifiesSpeed && !profile.speed.valid)
    (text "profile speed specification is inconsistent") <|
  refuseIf (profile.specifiesMtu && !profile.mtu.valid)
    (text "profile MTU specification is outside the legal range") <|
  refuseIf (profile.specifiesDuplex && !profile.duplex.isValid)
    (text "profile duplex specification is not a legal value") <|
  refuseIf (profile.specifiesAutoneg && !profile.autoneg.isValid)
    (text "profile autonegotiation specification is not a legal value") <|
  refuseIf (profile.specifiesFec && !profile.fec.isValid)
    (text "profile FEC specification is not a legal value") <|
  refuseIf (profile.specifiesPause && !profile.pause.isValid)
    (text "profile pause specification is not a legal value") <|
  refuseIf (profile.specifiesBreakout && !profile.breakout.isValid)
    (text "profile breakout specification is not a legal value") <|
  refuseIf (profile.specifiesMode && !profile.mode.isValid)
    (text "profile port mode specification is not a legal value") <|
  refuseIf (profile.specifiesProtocol && !profile.protocol.isValid)
    (text "profile protocol specification is not a legal value") <|
  within (validateText profile.role maxNameLength) (text "profile role: " ++ ·) <|
  refuseIf (!profile.specifiesRole && !profile.role.isEmpty)
    (text "profile carries a role without declaring it specified") <|
  .ok ()

private def flag (present : Bool) : Text :=
  if present then "specified" else "absent"

def canonicalFields (profile : ProfileConfiguration) : List (Text × Text) :=
  [ (text "speed", flag profile.specifiesSpeed), (text "speed_value", profile.speed.toText),
    (text "mtu", flag profile.specifiesMtu), (text "mtu_value", profile.mtu.toText),
    (text "duplex", flag profile.specifiesDuplex), (text "duplex_value", profile.duplex.toText),
    (text "autoneg", flag profile.specifiesAutoneg),
    (text "autoneg_value", profile.autoneg.toText),
    (text "fec", flag profile.specifiesFec), (text "fec_value", profile.fec.toText),
    (text "pause", flag profile.specifiesPause), (text "pause_value", profile.pause.toText),
    (text "breakout", flag profile.specifiesBreakout),
    (text "breakout_value", profile.breakout.toText),
    (text "mode", flag profile.specifiesMode), (text "mode_value", profile.mode.toText),
    (text "protocol", flag profile.specifiesProtocol),
    (text "protocol_value", profile.protocol.toText),
    (text "aggregation", flag profile.specifiesAggregation),
    (text "aggregation_participation",
      if profile.aggregateParticipation then "participating" else "passive"),
    (text "role", flag profile.specifiesRole), (text "role_value", profile.role) ]

end ProfileConfiguration

structure PortProfile where
  id : PortProfileId
  generation : PortProfileGeneration
  name : Text
  description : Text := []
  configuration : ProfileConfiguration := {}
  provenance : Provenance := {}
  deriving DecidableEq

namespace PortProfile

open Checks

def validate (profile : PortProfile) : Except Text Unit :=
  require (profile.id.valid && profile.generation.valid)
    (text "the profile identity or generation is missing") <|
  within (validateText profile.name maxNameLength) (text "profile name: " ++ ·) <|
  refuseIf profile.name.isEmpty
    (text "the profile name is empty") <|
  within (validateText profile.description maxDescriptionLength)
    (text "profile description: " ++ ·) <|
  within profile.configuration.validate (fun error => error) <|
  require (profile.provenance.kind.isValid && profile.provenance.epoch.valid)
    (text "profile provenance is incomplete") <|
  .ok ()

def digest (profile : PortProfile) : Digest :=
  let builder : DigestBuilder := {}
  let builder := builder.addField "id" profile.id.value
  let builder := builder.addField "generation" profile.generation.format
  let builder := builder.addField "name" profile.name
  let builder := builder.addField "description" profile.description
  (builder.addFields profile.configuration.canonicalFields).finish

end PortProfile

/-- Generations of each profile, oldest first. -/
abbrev ProfileRegistry := Std.ExtTreeMap PortProfileId (List PortProfile)

namespace ProfileRegistry

def define (registry : ProfileRegistry) (profile : PortProfile) : ProfileRegistry × Outcome :=
  match profile.validate with
  | .error error => (registry, .failure .invalidProfile error)
  | .ok () =>
  match registry[profile.id]? with
  | none =>
      if registry.size ≥ maxProfiles then
        (registry, .failure .resourceBoundExceeded
          "the profile registry is at its configured bound")
      else if profile.generation.value ≠ 1 then
        (registry, .failure .invalidProfile
          "the first generation of a profile must be generation 1")
      else
        (registry.insert profile.id [profile], .success "profile generation defined")
  | some generations =>
      match generations.getLast? with
      | none => (registry, .failure .internalError [])
      | some latest =>
          if profile.generation = latest.generation then
            if profile.digest = latest.digest then
              (registry, .current
                "the profile generation is already defined with identical content")
            else
              (registry, .failure .duplicateRecord
                "the profile generation is already defined with different content")
          else if profile.generation < latest.generation then
            (registry, .failure .invalidProfile
              "the profile generation is older than the latest defined generation")
          else if generations.length ≥ maxProfileGenerations then
            (registry, .failure .resourceBoundExceeded
              "the profile identifier reached its generation bound")
          else
            (registry.insert profile.id (generations ++ [profile]),
              .success "profile generation defined")

def get (registry : ProfileRegistry) (id : PortProfileId) (generation : PortProfileGeneration) :
    Option PortProfile :=
  (registry[id]?).bind fun generations =>
    generations.find? fun profile => profile.generation = generation

/-- Every stored generation, in the order of the profile identifiers. -/
def list (registry : ProfileRegistry) : List PortProfile :=
  registry.toList.flatMap Prod.snd

end ProfileRegistry

/-- Applies the dimensions a profile specifies onto a configuration. -/
def applyProfile (profile : ProfileConfiguration) (target : PortConfiguration) :
    PortConfiguration :=
  { target with
    speed := if profile.specifiesSpeed then profile.speed else target.speed
    mtu := if profile.specifiesMtu then profile.mtu else target.mtu
    duplex := if profile.specifiesDuplex then profile.duplex else target.duplex
    autoneg := if profile.specifiesAutoneg then profile.autoneg else target.autoneg
    fec := if profile.specifiesFec then profile.fec else target.fec
    pause := if profile.specifiesPause then profile.pause else target.pause
    breakout := if profile.specifiesBreakout then profile.breakout else target.breakout
    mode := if profile.specifiesMode then profile.mode else target.mode
    protocol := if profile.specifiesProtocol then profile.protocol else target.protocol
    aggregation :=
      { target.aggregation with
        administrativeParticipation :=
          if profile.specifiesAggregation then profile.aggregateParticipation
          else target.aggregation.administrativeParticipation }
    role := if profile.specifiesRole then profile.role else target.role }

end PortFabric
