import PortFabric.Engine.Fixture
import PortFabric.Engine.PayloadProperties

/-!
# Configuration identity

Two valid configurations are compared by their payload texts. Apart from the
bookkeeping that a payload leaves out on purpose it leaves out the boot of the
provenance, and its free texts are not escaped.
-/

set_option autoImplicit false

namespace PortFabric

open Checks

/-- An absent profile binding carries neither an identity nor a generation. -/
theorem ProfileBinding.alike_iff {first second : ProfileBinding} (valid : first.valid = true)
    (valid' : second.valid = true) : first.Alike second ↔ first = second := by
  constructor
  · intro given
    rcases given with ⟨bound, shown⟩
    unfold ProfileBinding.valid at valid valid'
    cases present : first.bound with
    | true =>
        obtain ⟨id, generation⟩ := shown present
        cases first
        cases second
        simp only [mk.injEq]
        exact ⟨bound, id, generation⟩
    | false =>
        rw [if_neg (by simp [present]), Bool.and_eq_true, Bool.not_eq_true', Bool.not_eq_true']
          at valid
        rw [if_neg (by simp [← bound, present]), Bool.and_eq_true, Bool.not_eq_true',
          Bool.not_eq_true'] at valid'
        have id := StrongId.eq_null_of_not_valid valid.1
        have id' := StrongId.eq_null_of_not_valid valid'.1
        have generation := Generation.eq_null_of_not_valid valid.2
        have generation' := Generation.eq_null_of_not_valid valid'.2
        cases first
        cases second
        simp only [mk.injEq]
        exact ⟨bound, id.trans id'.symm, generation.trans generation'.symm⟩
  · intro same
    subst same
    exact ⟨rfl, fun _ => ⟨rfl, rfl⟩⟩

/-- An absent membership carries nothing. -/
theorem AggregationMembership.alike_iff {first second : AggregationMembership}
    (valid : first.valid = true) (valid' : second.valid = true) :
    first.Alike second ↔ first = second := by
  constructor
  · intro given
    rcases given with ⟨member, shown⟩
    unfold AggregationMembership.valid at valid valid'
    cases present : first.member with
    | true =>
        obtain ⟨aggregate, generation, participation⟩ := shown present
        cases first
        cases second
        simp only [mk.injEq]
        exact ⟨member, aggregate, generation, participation⟩
    | false =>
        rw [if_pos (by simp [present]), Bool.and_eq_true, Bool.and_eq_true, Bool.not_eq_true',
          Bool.not_eq_true', Bool.not_eq_true'] at valid
        rw [if_pos (by simp [← member, present]), Bool.and_eq_true, Bool.and_eq_true,
          Bool.not_eq_true', Bool.not_eq_true', Bool.not_eq_true'] at valid'
        have aggregate := StrongId.eq_null_of_not_valid valid.1.1
        have aggregate' := StrongId.eq_null_of_not_valid valid'.1.1
        have generation := Generation.eq_null_of_not_valid valid.1.2
        have generation' := Generation.eq_null_of_not_valid valid'.1.2
        cases first
        cases second
        simp only [mk.injEq]
        exact ⟨member, aggregate.trans aggregate'.symm, generation.trans generation'.symm,
          valid.2.trans valid'.2.symm⟩
  · intro same
    subst same
    exact ⟨rfl, fun _ => ⟨rfl, rfl, rfl⟩⟩

namespace PortConfiguration

variable {first second : PortConfiguration}

/-- The configuration without the bookkeeping that its payload leaves out on purpose. -/
def withoutBookkeeping (configuration : PortConfiguration) : PortConfiguration :=
  { configuration with
    evidenceGeneration := .null
    provenance := { configuration.provenance with epoch := .null, attempt := .null } }

/-- The fields that the payload of a configuration tells. -/
def told (configuration : PortConfiguration) : PortConfiguration :=
  { configuration with provenance.boot := .null }.withoutBookkeeping

/-- Nothing but the boots of the provenance tells the configurations apart. -/
def DifferInBoot (first second : PortConfiguration) : Prop :=
  first.provenance.boot ≠ second.provenance.boot ∧ first.told = second.told

/-- Valid configurations are rendered alike when they agree on every field a payload tells. -/
theorem renderedAlike_iff (valid : first.validate = .ok ()) (valid' : second.validate = .ok ()) :
    first.RenderedAlike second ↔ first.told = second.told := by
  simp only [validate, require_eq_ok, within_eq_ok, Provenance.valid, Bool.and_eq_true] at valid
  simp only [validate, require_eq_ok, within_eq_ok, Provenance.valid, Bool.and_eq_true] at valid'
  obtain ⟨_, _, _, _, _, administrative, mode, protocol, speed, duplex, _, _, breakout, autoneg,
    fec, pause, aggregation, profile, provenance, _⟩ := valid
  obtain ⟨_, _, _, _, _, administrative', mode', protocol', speed', duplex', _, _, breakout',
    autoneg', fec', pause', aggregation', profile', provenance', _⟩ := valid'
  have settings : first.speed = second.speed ↔
      first.speed.selection.toText = second.speed.selection.toText ∧
        first.speed.rate = second.speed.rate := by
    rw [SpeedSelection.toText_legal_inj (SpeedSetting.selection_valid speed)
      (SpeedSetting.selection_valid speed')]
    cases first.speed
    cases second.speed
    simp only [SpeedSetting.mk.injEq]
  have sources : first.provenance.source = second.provenance.source ∧
      first.provenance.publisher = second.provenance.publisher ∧
      first.provenance.kind = second.provenance.kind ↔
        { first.provenance with boot := .null, epoch := .null, attempt := .null } =
          { second.provenance with boot := .null, epoch := .null, attempt := .null } := by
    simp only [Provenance.mk.injEq, and_true]
    constructor
    · intro given
      rcases given with ⟨source, publisher, kind⟩
      exact ⟨kind, source, publisher⟩
    · intro given
      rcases given with ⟨kind, source, publisher⟩
      exact ⟨source, publisher, kind⟩
  simp only [told, withoutBookkeeping, mk.injEq, ← sources, settings, and_true]
  constructor
  · intro given
    rcases given with ⟨front, role, middle, source, publisher⟩
    refine ⟨front.record, front.port, front.parentDevice, front.deviceGeneration,
      front.topologyGeneration, front.generation,
      (AdministrativeState.toText_legal_inj administrative administrative').mp front.administrative,
      (PortMode.toText_legal_inj mode mode').mp front.mode,
      (ProtocolFamily.toText_legal_inj protocol protocol').mp front.protocol,
      ⟨front.selection, front.rate⟩, (DuplexMode.toText_legal_inj duplex duplex').mp front.duplex,
      front.mtu, front.lanes, (BreakoutMode.toText_legal_inj breakout breakout').mp front.breakout,
      (AutonegPolicy.toText_legal_inj autoneg autoneg').mp front.autoneg,
      (FecMode.toText_legal_inj fec fec').mp front.fec,
      (PauseMode.toText_legal_inj pause pause').mp front.pause,
      (AggregationMembership.alike_iff aggregation aggregation').mp front.aggregation,
      (ProfileBinding.alike_iff profile profile').mp front.profile, role, middle.logicalIdentity,
      middle.derivedFrom, middle.childIndex, ⟨source, publisher, ?_⟩, middle.capabilityGeneration⟩
    exact (ProvenanceKind.toText_legal_inj provenance.1.1 provenance'.1.1).mp middle.provenanceKind
  · intro given
    rcases given with ⟨record, port, device, deviceGeneration, topology, generation,
      administrative, mode, protocol, ⟨selection, rate⟩, duplex, mtu, lanes, breakout, autoneg,
      fec, pause, aggregation, profile, role, logical, derived, child, ⟨source, publisher, kind⟩,
      capability⟩
    refine ⟨?_, role, ⟨logical, derived, child, capability, congrArg _ kind⟩, source, publisher⟩
    constructor
    case aggregation =>
      rw [aggregation]
      exact ⟨rfl, fun _ => ⟨rfl, rfl, rfl⟩⟩
    case profile =>
      rw [profile]
      exact ⟨rfl, fun _ => ⟨rfl, rfl⟩⟩
    all_goals simp only [*]

/--
Valid configurations are taken for equal exactly when they agree on all but
bookkeeping, provided neither role injects into the other and they differ in
more than the boots of their provenance.
-/
theorem semantically_equal_iff (valid : first.validate = .ok ())
    (valid' : second.validate = .ok ()) :
    ((configurationSemanticallyEqual first second = true ∧
        canonicalPayload first = canonicalPayload second) ↔
      first.withoutBookkeeping = second.withoutBookkeeping) ↔
      ¬first.Injects second ∧ ¬second.Injects first ∧ ¬first.DifferInBoot second := by
  have compared : (configurationSemanticallyEqual first second = true ∧
      canonicalPayload first = canonicalPayload second) ↔
        first.told = second.told ∨ first.Injects second ∨ second.Injects first := by
    rw [configurationSemanticallyEqual, decide_eq_true_eq, and_self, canonicalPayload_eq_iff,
      renderedAlike_iff valid valid']
  have separated : first.withoutBookkeeping = second.withoutBookkeeping ↔
      first.told = second.told ∧ first.provenance.boot = second.provenance.boot := by
    constructor
    · intro same
      have boots : first.withoutBookkeeping.provenance.boot =
          second.withoutBookkeeping.provenance.boot :=
        congrArg (fun configuration => configuration.provenance.boot) same
      have rest := congrArg
        (fun configuration => { configuration with provenance.boot := StrongId.null }) same
      exact ⟨rest, boots⟩
    · intro given
      rcases given with ⟨same, boots⟩
      have rebooted (configuration : PortConfiguration) : configuration.withoutBookkeeping =
          { configuration.told with provenance.boot := configuration.provenance.boot } := rfl
      rw [rebooted, same, boots, ← rebooted]
  rw [compared, separated]
  constructor
  · intro decided
    refine ⟨fun injects => ?_, fun injects => ?_, fun ⟨different, same⟩ => ?_⟩
    · have roles : first.told.role = second.told.role :=
        congrArg PortConfiguration.role (decided.mp (.inr (.inl injects))).1
      exact injects.role_ne roles
    · have roles : first.told.role = second.told.role :=
        congrArg PortConfiguration.role (decided.mp (.inr (.inr injects))).1
      exact injects.role_ne roles.symm
    · exact different (decided.mp (.inl same)).2
  · intro given
    rcases given with ⟨untouched, untouching, booted⟩
    constructor
    · intro given
      rcases given with same | injects | injects
      · exact ⟨same, not_not.mp fun different => booted ⟨different, same⟩⟩
      · exact absurd injects untouched
      · exact absurd injects untouching
    · exact fun same => .inl same.1

end PortConfiguration

namespace InjectedRole

def configuration (role source : Text) : PortConfiguration :=
  { Fixture.makeConfiguration "syn-sw1-p01" with
    record := "cfg-1"
    deviceGeneration := .first
    topologyGeneration := .first
    generation := .first
    role
    provenance := { kind := .operator, source, epoch := .first, attempt := "configure-1" } }

/-- The fields that follow a role in the payload, as free text. -/
def fields : Text := (configuration [] []).bridge

theorem plain_valid : (configuration [] fields).validate = .ok () := by decide +kernel

theorem named_valid : (configuration fields []).validate = .ok () := by decide +kernel

/-- A role that spells the fields after it passes for no role with these bytes as the source. -/
theorem different_taken_for_equal :
    (configuration [] fields).validate = .ok () ∧ (configuration fields []).validate = .ok () ∧
      configurationSemanticallyEqual (configuration [] fields) (configuration fields []) = true ∧
      (configuration [] fields).withoutBookkeeping ≠
        (configuration fields []).withoutBookkeeping :=
  ⟨plain_valid, named_valid, by decide +kernel, by decide +kernel⟩

theorem plain_equal_iff :
    ((configurationSemanticallyEqual (configuration [] fields) (configuration fields []) = true ∧
        canonicalPayload (configuration [] fields) = canonicalPayload (configuration fields [])) ↔
      (configuration [] fields).withoutBookkeeping =
        (configuration fields []).withoutBookkeeping) ↔
      ¬(configuration [] fields).Injects (configuration fields []) ∧
        ¬(configuration fields []).Injects (configuration [] fields) ∧
        ¬(configuration [] fields).DifferInBoot (configuration fields []) :=
  PortConfiguration.semantically_equal_iff plain_valid named_valid

end InjectedRole

end PortFabric
