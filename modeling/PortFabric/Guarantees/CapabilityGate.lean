import PortFabric.Engine.Fixture

/-!
# Capability gate

What acceptance of a configuration says of the evidence, dimension by
dimension. Two dimensions are accepted without evidence: one lane where no lane
mode is listed, and any duplex where the duplex evidence is unknown.
-/

set_option autoImplicit false

namespace PortFabric

open Checks

/-- The evidence is bound, valid and not unknown as a whole. -/
structure CapabilityBinding.Usable (binding : CapabilityBinding) : Prop where
  bound : binding.present = true ∧ binding.generation.valid = true
  valid : binding.capabilities.validate = .ok ()
  certain : binding.capabilities.certainty ≠ .unknown

namespace PortConfiguration

variable {configuration : PortConfiguration} {capabilities : PortCapabilities}

/-- The lane count is one of the listed modes, within the bound where there is one. -/
structure LanesListed (configuration : PortConfiguration) (capabilities : PortCapabilities) :
    Prop where
  bounded : capabilities.maxLanes ≠ 0 →
    configuration.lanes.lanes ≤ capabilities.maxLanes.toNat
  listed : configuration.lanes.lanes ≠ 0 ∧
    ∃ mode ∈ capabilities.laneModes, mode.toNat = configuration.lanes.lanes

/-- One lane, where the evidence neither lists nor bounds the lanes. -/
def LanesUnlisted (configuration : PortConfiguration) (capabilities : PortCapabilities) : Prop :=
  capabilities.laneModes = [] ∧ capabilities.maxLanes = 0 ∧ configuration.lanes.lanes = 1

/-- The evidence shows the duplex that is asked for. -/
def DuplexShown (configuration : PortConfiguration) (capabilities : PortCapabilities) : Prop :=
  configuration.duplex ≠ .unsupported →
    configuration.duplex ≠ .unknown ∧ capabilities.duplex = configuration.duplex

/-- A duplex is asked for, and the evidence shows none. -/
def DuplexUnshown (configuration : PortConfiguration) (capabilities : PortCapabilities) : Prop :=
  configuration.duplex ≠ .unsupported ∧ configuration.duplex ≠ .unknown ∧
    capabilities.duplex = .unknown

/-- The dimensions other than lanes and duplex that are asked for are supported. -/
structure SupportedAside (configuration : PortConfiguration) (capabilities : PortCapabilities) :
    Prop where
  speed : ∃ total, configuration.lanes.total = some total ∧
    total ∈ capabilities.supportedSpeeds ∧
    (configuration.speed.selection ≠ .auto →
      configuration.speed.rate.valid = true ∧ configuration.speed.rate = total)
  breakout : configuration.breakout ≠ .none → capabilities.breakoutSupported = true ∧
    configuration.breakout.children ≤ capabilities.maxBreakoutChildren.toNat
  protocol : configuration.protocol ≠ .unknown ∧
    configuration.protocol ∈ capabilities.protocolFamilies
  fec : configuration.fec ≠ .unsupported →
    configuration.fec ≠ .unknown ∧ configuration.fec ∈ capabilities.fecModes
  autoneg : configuration.autoneg ≠ .unsupported →
    configuration.autoneg ≠ .unknown ∧ configuration.autoneg ∈ capabilities.autonegModes
  pause : configuration.pause ≠ .unsupported →
    configuration.pause ≠ .unknown ∧ configuration.pause ∈ capabilities.pauseModes
  mtu : capabilities.capabilityMtuMax ≠ 0 ∧
    capabilities.capabilityMtuMin.toNat ≤ configuration.mtu.value ∧
    configuration.mtu.value ≤ capabilities.capabilityMtuMax.toNat
  logical : configuration.mode = .logical → capabilities.logicalInterfaceSupported = true
  transceiver : capabilities.transceiverRequired = true → capabilities.transceiverClass ≠ []

/-- Every dimension that is asked for is supported by the evidence. -/
structure Supported (configuration : PortConfiguration) (binding : CapabilityBinding) : Prop where
  usable : binding.Usable
  aside : configuration.SupportedAside binding.capabilities
  lanes : configuration.LanesListed binding.capabilities
  duplex : configuration.DuplexShown binding.capabilities

/-- The evidence supports all but the lanes or the duplex, of which it tells nothing. -/
structure TakenOnTrust (configuration : PortConfiguration) (binding : CapabilityBinding) :
    Prop where
  usable : binding.Usable
  aside : configuration.SupportedAside binding.capabilities
  lanes : configuration.LanesListed binding.capabilities ∨
    configuration.LanesUnlisted binding.capabilities
  duplex : configuration.DuplexShown binding.capabilities ∨
    configuration.DuplexUnshown binding.capabilities
  untold : configuration.LanesUnlisted binding.capabilities ∨
    configuration.DuplexUnshown binding.capabilities

theorem supportsLanes_iff (certain : capabilities.certainty ≠ .unknown) :
    capabilities.supportsLanes configuration.lanes.lanes = true ↔
      configuration.LanesListed capabilities ∨ configuration.LanesUnlisted capabilities := by
  unfold PortCapabilities.supportsLanes
  split
  · next absent =>
      have none : configuration.lanes.lanes = 0 := by simpa [certain] using absent
      refine iff_of_false Bool.false_ne_true ?_
      intro given
      rcases given with listed | ⟨_, _, one⟩
      · exact listed.listed.1 none
      · omega
  · next present =>
      have some : configuration.lanes.lanes ≠ 0 := by
        intro none
        exact present (by simp [none])
      split
      · next beyond =>
          simp only [Bool.and_eq_true, decide_eq_true_eq] at beyond
          refine iff_of_false Bool.false_ne_true ?_
          intro given
          rcases given with listed | ⟨_, unbounded, _⟩
          · have := listed.bounded (by simpa using beyond.1)
            omega
          · simp [unbounded] at beyond
      · next within =>
          have bounded : capabilities.maxLanes ≠ 0 →
              configuration.lanes.lanes ≤ capabilities.maxLanes.toNat := by
            intro bound
            simpa [bound] using within
          split
          · next empty =>
              rw [List.isEmpty_iff] at empty
              rw [Bool.and_eq_true, decide_eq_true_eq, decide_eq_true_eq]
              constructor
              · intro given
                rcases given with ⟨unbounded, one⟩
                exact .inr ⟨empty, unbounded, one⟩
              · intro given
                rcases given with listed | ⟨_, unbounded, one⟩
                · obtain ⟨_, member, _⟩ := listed.listed.2
                  rw [empty] at member
                  cases member
                · exact ⟨unbounded, one⟩
          · next modes =>
              rw [List.any_eq_true]
              simp only [decide_eq_true_eq]
              constructor
              · exact fun listed => .inl ⟨bounded, some, listed⟩
              · intro given
                rcases given with listed | ⟨empty, _, _⟩
                · exact listed.listed.2
                · simp [empty] at modes

theorem supported_iff {α : Type} [DecidableEq α] {certain : Bool} {value unknown : α}
    {modes : List α} (known : certain = false) :
    (if certain || value = unknown then false else modes.contains value) = true ↔
      value ≠ unknown ∧ value ∈ modes := by
  by_cases same : value = unknown <;> simp [known, same]

/-- A dimension with a list of modes supports a mode when the list has it. -/
theorem listed_iff {α : Type} [DecidableEq α] {value unknown unsupported : α} {supported : Bool}
    {modes : List α} (supports : supported = true ↔ value ≠ unknown ∧ value ∈ modes)
    (apart : unknown ≠ unsupported) :
    ((value ≠ unknown && value ≠ unsupported) && !supported) = false ∧ value ≠ unknown ↔
      (value ≠ unsupported → value ≠ unknown ∧ value ∈ modes) := by
  by_cases same : value = unknown
  · subst same
    simp [apart]
  · by_cases exempt : value = unsupported
    · simp [exempt, apart.symm]
    · rw [← supports]
      simp [same, exempt]

theorem speed_iff {total : PortSpeed} (certain : capabilities.certainty ≠ .unknown) :
    (configuration.speed.selection = .auto && !capabilities.supportedSpeeds.contains total) =
          false ∧
        (configuration.speed.selection ≠ .auto &&
          !capabilities.supportsSpeed configuration.speed.rate) = false ∧
        (configuration.speed.selection ≠ .auto && configuration.speed.rate ≠ total) = false ↔
      total ∈ capabilities.supportedSpeeds ∧
        (configuration.speed.selection ≠ .auto →
          configuration.speed.rate.valid = true ∧ configuration.speed.rate = total) := by
  by_cases auto : configuration.speed.selection = .auto
  · simp [auto]
  · have supports : capabilities.supportsSpeed configuration.speed.rate = true ↔
        configuration.speed.rate.valid = true ∧
          configuration.speed.rate ∈ capabilities.supportedSpeeds := by
      unfold PortCapabilities.supportsSpeed
      by_cases valid : configuration.speed.rate.valid = true <;> simp [valid, certain]
    simp only [auto, decide_false, Bool.false_and, ne_eq, not_false_eq_true, decide_true,
      Bool.true_and, supports, decide_not, Bool.not_eq_eq_eq_not,
      Bool.not_false, decide_eq_true_eq, true_and, true_implies]
    constructor
    · intro given
      rcases given with ⟨⟨valid, listed⟩, rfl⟩
      exact ⟨listed, valid, rfl⟩
    · intro given
      rcases given with ⟨listed, valid, rfl⟩
      exact ⟨⟨valid, listed⟩, rfl⟩

theorem duplex_iff :
    ((configuration.duplex ≠ .unknown && configuration.duplex ≠ .unsupported) &&
            capabilities.duplex ≠ .unknown && capabilities.duplex ≠ configuration.duplex) = false ∧
        decide (configuration.duplex = .unknown) = false ↔
      configuration.DuplexShown capabilities ∨ configuration.DuplexUnshown capabilities := by
  unfold DuplexShown DuplexUnshown
  by_cases unsupported : configuration.duplex = .unsupported
  · simp [unsupported]
  · by_cases unknown : configuration.duplex = .unknown
    · simp [unknown]
    · by_cases unshown : capabilities.duplex = .unknown
      · simp [unsupported, unknown, unshown]
      · simp [unsupported, unknown, unshown]

theorem breakout_iff :
    (configuration.breakout ≠ .none && !capabilities.breakoutSupported) = false ∧
        (configuration.breakout ≠ .none &&
          configuration.breakout.children > capabilities.maxBreakoutChildren.toNat) = false ↔
      (configuration.breakout ≠ .none → capabilities.breakoutSupported = true ∧
        configuration.breakout.children ≤ capabilities.maxBreakoutChildren.toNat) := by
  by_cases whole : configuration.breakout = .none <;> simp [whole]

theorem mtu_iff :
    (capabilities.capabilityMtuMax ≠ 0 &&
          (configuration.mtu.value < capabilities.capabilityMtuMin.toNat ||
            configuration.mtu.value > capabilities.capabilityMtuMax.toNat)) = false ∧
        decide (capabilities.capabilityMtuMax = 0) = false ↔
      capabilities.capabilityMtuMax ≠ 0 ∧
        capabilities.capabilityMtuMin.toNat ≤ configuration.mtu.value ∧
        configuration.mtu.value ≤ capabilities.capabilityMtuMax.toNat := by
  by_cases unbounded : capabilities.capabilityMtuMax = 0 <;> simp [unbounded]

/-- Acceptance asks for every dimension, but lanes and duplex pass untold. -/
theorem accepted_iff {binding : CapabilityBinding} :
    validateAgainstCapabilities configuration binding = .ok () ↔
      binding.Usable ∧ configuration.SupportedAside binding.capabilities ∧
        (configuration.LanesListed binding.capabilities ∨
          configuration.LanesUnlisted binding.capabilities) ∧
        (configuration.DuplexShown binding.capabilities ∨
          configuration.DuplexUnshown binding.capabilities) := by
  have refused {rejection : CapabilityRejection} {accepts : Prop} (never : ¬accepts) :
      (.error rejection : Except CapabilityRejection Unit) = .ok () ↔ accepts :=
    iff_of_false (fun same => by cases same) never
  unfold validateAgainstCapabilities
  dsimp only
  split
  · next unbound =>
      refine refused fun ⟨usable, _⟩ => ?_
      simp [usable.bound.1, usable.bound.2] at unbound
  · next bound =>
      simp only [Bool.or_eq_true, Bool.not_eq_true', not_or, Bool.not_eq_false] at bound
      split
      · next invalid =>
          refine refused fun ⟨usable, _⟩ => ?_
          rw [usable.valid] at invalid
          cases invalid
      · next valid =>
          split
          · next unknown => exact refused fun ⟨usable, _⟩ => usable.certain unknown
          · next certain =>
              have uncertain : decide (binding.capabilities.certainty = .unknown) = false := by
                simpa using certain
              split
              · next absent =>
                  refine refused fun ⟨_, aside, _⟩ => ?_
                  obtain ⟨_, present, _⟩ := aside.speed
                  rw [absent] at present
                  cases present
              · next total realised =>
                  simp only [refuseIf_eq_ok, require_eq_ok]
                  constructor
                  · intro given
                    rcases given with ⟨auto, forced, same, lanes, breakout, fanout, family, named,
                      fec, fecNamed, autoneg, autonegNamed, pause, pauseNamed, duplex, duplexNamed,
                      range, bounds, logical, transceiver, _⟩
                    refine ⟨⟨bound, valid, certain⟩, ?_, (supportsLanes_iff certain).mp lanes,
                      duplex_iff.mp ⟨duplex, duplexNamed⟩⟩
                    exact {
                      speed := ⟨total, realised, (speed_iff certain).mp ⟨auto, forced, same⟩⟩
                      breakout := breakout_iff.mp ⟨breakout, fanout⟩
                      protocol := by
                        have known : configuration.protocol ≠ .unknown := by simpa using named
                        have supports : binding.capabilities.supportsProtocol
                            configuration.protocol = true := by
                          simpa [known] using family
                        exact (supported_iff uncertain).mp supports
                      fec := (listed_iff (supported_iff uncertain) (by decide)).mp
                        ⟨fec, by simpa using fecNamed⟩
                      autoneg := (listed_iff (supported_iff uncertain) (by decide)).mp
                        ⟨autoneg, by simpa using autonegNamed⟩
                      pause := (listed_iff (supported_iff uncertain) (by decide)).mp
                        ⟨pause, by simpa using pauseNamed⟩
                      mtu := mtu_iff.mp ⟨range, bounds⟩
                      logical := by simpa using logical
                      transceiver := by simpa using transceiver }
                  · intro given
                    rcases given with ⟨usable, aside, lanes, duplex⟩
                    obtain ⟨other, found, speed⟩ := aside.speed
                    obtain rfl : total = other := Option.some.inj (realised.symm.trans found)
                    obtain ⟨auto, forced, same⟩ := (speed_iff certain).mpr speed
                    obtain ⟨breakout, fanout⟩ := breakout_iff.mpr aside.breakout
                    obtain ⟨fec, fecNamed⟩ :=
                      (listed_iff (supported_iff uncertain) (by decide)).mpr aside.fec
                    obtain ⟨autoneg, autonegNamed⟩ :=
                      (listed_iff (supported_iff uncertain) (by decide)).mpr aside.autoneg
                    obtain ⟨pause, pauseNamed⟩ :=
                      (listed_iff (supported_iff uncertain) (by decide)).mpr aside.pause
                    obtain ⟨shown, duplexNamed⟩ := duplex_iff.mpr duplex
                    obtain ⟨range, bounds⟩ := mtu_iff.mpr aside.mtu
                    refine ⟨auto, forced, same, (supportsLanes_iff certain).mpr lanes, breakout,
                      fanout, ?_, by simpa using aside.protocol.1, fec, by simpa using fecNamed,
                      autoneg, by simpa using autonegNamed, pause, by simpa using pauseNamed, shown,
                      duplexNamed, range, bounds, by simpa using aside.logical,
                      by simpa using aside.transceiver, trivial⟩
                    have supports : binding.capabilities.supportsProtocol configuration.protocol =
                      true := (supported_iff uncertain).mpr aside.protocol
                    rw [supports]
                    simp

/--
Acceptance means support in every dimension that is asked for, unless lanes or
duplex are taken on trust.
-/
theorem fails_closed_iff (configuration : PortConfiguration) (binding : CapabilityBinding) :
    (validateAgainstCapabilities configuration binding = .ok () →
        configuration.Supported binding) ↔
      ¬configuration.TakenOnTrust binding := by
  rw [accepted_iff]
  constructor
  · intro closed given
    rcases given with ⟨usable, aside, lanes, duplex, untold⟩
    have supported := closed ⟨usable, aside, lanes, duplex⟩
    obtain unlisted | unshown := untold
    · obtain ⟨_, member, _⟩ := supported.lanes.listed.2
      rw [unlisted.1] at member
      cases member
    · obtain ⟨known, shown⟩ := supported.duplex unshown.1
      exact known (shown.symm.trans unshown.2.2)
  · intro told given
    rcases given with ⟨usable, aside, lanes, duplex⟩
    have trusted (untold : configuration.LanesUnlisted binding.capabilities ∨
        configuration.DuplexUnshown binding.capabilities) : False :=
      told ⟨usable, aside, lanes, duplex, untold⟩
    refine ⟨usable, aside, ?_, ?_⟩
    · exact lanes.resolve_right fun unlisted => trusted (.inl unlisted)
    · exact duplex.resolve_right fun unshown => trusted (.inr unshown)

end PortConfiguration

namespace UnknownDuplex

/-- Evidence that does not tell the duplex. -/
def evidence : CapabilityBinding :=
  { Fixture.evidence with
    capabilities := { Fixture.evidence.capabilities with duplex := .unknown } }

def configuration : PortConfiguration := Fixture.makeConfiguration "syn-sw1-p01"

/-- Full duplex is accepted although nothing is known of the duplex of the port. -/
theorem unknown_accepted :
    ¬(validateAgainstCapabilities configuration evidence = .ok () →
      configuration.Supported evidence) := by
  intro closed
  have accepted : validateAgainstCapabilities configuration evidence = .ok () := by decide +kernel
  have shown := ((closed accepted).duplex (by decide)).2
  revert shown
  decide

end UnknownDuplex

end PortFabric
