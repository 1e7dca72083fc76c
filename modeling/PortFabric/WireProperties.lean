import PortFabric.WireLayout

/-!
# Properties of the wire readers

Every reader reads the layout of the writer of the same value. What it accepts
is stated on the value as a whole.
-/

set_option autoImplicit false

namespace PortFabric

open Formats

attribute [ext] PortConfiguration SpeedSetting AggregationMembership ProfileBinding PortRecord
  AppliedEvidence LastMutationRecord ProfileConfiguration

/-! ## Values -/

theorem Mtu.lt_word (mtu : Mtu) : mtu.value < 2 ^ 32 := by
  have within : maxMtu < 2 ^ 32 := by decide
  obtain zero | ⟨_, upper⟩ := mtu.inRange
  · rw [zero]
    decide
  · exact Nat.lt_of_le_of_lt upper within

theorem Mtu.create_eq_some {value : Nat} {mtu : Mtu} :
    Mtu.create value = some mtu ↔ mtu.valid = true ∧ mtu.value = value := by
  unfold Mtu.create
  split
  · next range =>
      have positive : value ≠ 0 := by
        have minimum : 0 < minMtu := by decide
        omega
      constructor
      · intro given
        cases given
        exact ⟨decide_eq_true positive, rfl⟩
      · intro given
        rcases given with ⟨_, rfl⟩
        rfl
  · next outside =>
      refine iff_of_false nofun ?_
      intro given
      rcases given with ⟨valid, rfl⟩
      exact mtu.inRange.elim (fun zero => by simp [Mtu.valid, zero] at valid) outside

theorem LaneConfiguration.lt_word (lanes : LaneConfiguration) : lanes.lanes < 2 ^ 32 := by
  have within : maxLanes < 2 ^ 32 := by decide
  obtain ⟨zero, _⟩ | ⟨_, upper, _⟩ := lanes.consistent
  · omega
  · omega

theorem LaneConfiguration.create_eq_some {count : Nat} {perLane : PortSpeed}
    {lanes : LaneConfiguration} :
    LaneConfiguration.create count perLane = some lanes ↔
      lanes.valid = true ∧ lanes.lanes = count ∧ lanes.perLane = perLane := by
  unfold LaneConfiguration.create
  split
  · next legal =>
      constructor
      · intro given
        cases given
        refine ⟨?_, rfl, rfl⟩
        simp [LaneConfiguration.valid, legal.2.2.1, Nat.ne_of_gt legal.1]
      · intro given
        rcases given with ⟨_, rfl, rfl⟩
        rfl
  · next illegal =>
      refine iff_of_false nofun ?_
      intro given
      rcases given with ⟨valid, rfl, rfl⟩
      obtain ⟨zero, _⟩ | legal := lanes.consistent
      · simp [LaneConfiguration.valid, zero] at valid
      · exact illegal legal

theorem LaneConfiguration.valid_perLane {lanes : LaneConfiguration} (valid : lanes.valid = true) :
    lanes.perLane.valid = true := by
  rw [LaneConfiguration.valid, Bool.and_eq_true] at valid
  exact valid.2

theorem PortCapabilities.legal_of_validate {capabilities : PortCapabilities}
    (valid : capabilities.validate = .ok ()) :
    (capabilities.certainty.isValid = true ∧ capabilities.duplex.isValid = true) ∧
      (capabilities.supportedSpeeds.length ≤ maxCapabilityEntries ∧
        ∀ speed ∈ capabilities.supportedSpeeds, speed.valid = true) ∧
      capabilities.laneModes.length ≤ maxModeEntries ∧
      (capabilities.fecModes.length ≤ maxModeEntries ∧
        ∀ mode ∈ capabilities.fecModes, mode.isValid = true) ∧
      (capabilities.autonegModes.length ≤ maxModeEntries ∧
        ∀ mode ∈ capabilities.autonegModes, mode.isValid = true) ∧
      (capabilities.pauseModes.length ≤ maxModeEntries ∧
        ∀ mode ∈ capabilities.pauseModes, mode.isValid = true) ∧
      (capabilities.protocolFamilies.length ≤ maxModeEntries ∧
        ∀ family ∈ capabilities.protocolFamilies, family.isValid = true) := by
  simp only [PortCapabilities.validate, Checks.require_eq_ok, Checks.refuseIf_eq_ok,
    decide_eq_false_iff_not, Nat.not_lt, gt_iff_lt, List.all_eq_true] at valid
  obtain ⟨certainty, speeds, lanes, fec, autoneg, pause, protocols, _, rates, _, fecs, autonegs,
    pauses, families, duplex, _⟩ := valid
  exact ⟨⟨certainty, duplex⟩, ⟨speeds, rates⟩, lanes, ⟨fec, fecs⟩, ⟨autoneg, autonegs⟩,
    ⟨pause, pauses⟩, protocols, families⟩

/-- What the reader of a configuration accepts: it is a proposal, not yet validated. -/
structure PortConfiguration.Readable (configuration : PortConfiguration) : Prop where
  administrative : configuration.administrative.isValid = true
  mode : configuration.mode.isValid = true
  protocol : configuration.protocol.isValid = true
  selection : configuration.speed.selection.isValid = true
  duplex : configuration.duplex.isValid = true
  mtu : configuration.mtu.valid = true
  lanes : configuration.lanes.valid = true
  breakout : configuration.breakout.isValid = true
  autoneg : configuration.autoneg.isValid = true
  fec : configuration.fec.isValid = true
  pause : configuration.pause.isValid = true
  provenance : configuration.provenance.kind.isValid = true

/-- A valid record may still carry evidence that does not validate and a foreign provenance. -/
structure PortRecord.Readable (record : PortRecord) : Prop where
  consistent : record.validate = .ok ()
  capabilities : record.capability.capabilities.validate = .ok ()
  provenance : record.provenance.kind.isValid = true

/-- Unspecified dimensions are written and read as well: they have to be legal, too. -/
structure ProfileConfiguration.Readable (profile : ProfileConfiguration) : Prop where
  consistent : profile.validate = .ok ()
  selection : profile.speed.selection.isValid = true
  mtu : profile.mtu.valid = profile.specifiesMtu
  duplex : profile.duplex.isValid = true
  autoneg : profile.autoneg.isValid = true
  fec : profile.fec.isValid = true
  pause : profile.pause.isValid = true
  breakout : profile.breakout.isValid = true
  mode : profile.mode.isValid = true
  protocol : profile.protocol.isValid = true

/-- Every enumeration value of the evidence is a declared one. -/
structure PortCapabilities.LegalValues (capabilities : PortCapabilities) : Prop where
  certainty : capabilities.certainty.isValid = true
  fecModes : ∀ mode ∈ capabilities.fecModes, mode.isValid = true
  autonegModes : ∀ policy ∈ capabilities.autonegModes, policy.isValid = true
  pauseModes : ∀ mode ∈ capabilities.pauseModes, mode.isValid = true
  protocolFamilies : ∀ family ∈ capabilities.protocolFamilies, family.isValid = true
  duplex : capabilities.duplex.isValid = true

/-- Every enumeration value of the configuration is a declared one. -/
structure PortConfiguration.LegalValues (configuration : PortConfiguration) : Prop where
  administrative : configuration.administrative.isValid = true
  mode : configuration.mode.isValid = true
  protocol : configuration.protocol.isValid = true
  selection : configuration.speed.selection.isValid = true
  duplex : configuration.duplex.isValid = true
  breakout : configuration.breakout.isValid = true
  autoneg : configuration.autoneg.isValid = true
  fec : configuration.fec.isValid = true
  pause : configuration.pause.isValid = true
  provenance : configuration.provenance.kind.isValid = true

/-- Every enumeration value of the record is a declared one. -/
structure PortRecord.LegalValues (record : PortRecord) : Prop where
  lifecycle : record.lifecycle.isValid = true
  configuration : ∀ configuration, record.configuration = some configuration →
    configuration.LegalValues
  ownership : ∀ ownership, record.ownership = some ownership → ownership.kind.isValid = true
  capabilities : record.capability.capabilities.LegalValues
  outcome : record.applied.outcome.isValid = true
  drift : record.drift.isValid = true
  provenance : record.provenance.kind.isValid = true

/-- What a profile leaves unspecified stands at its neutral or at another legal value. -/
structure ProfileConfiguration.Canonical (profile : ProfileConfiguration) : Prop where
  selection : profile.specifiesSpeed = false → profile.speed.selection.isValid = true
  mtu : profile.specifiesMtu = false → profile.mtu.valid = false
  duplex : profile.specifiesDuplex = false → profile.duplex.isValid = true
  autoneg : profile.specifiesAutoneg = false → profile.autoneg.isValid = true
  fec : profile.specifiesFec = false → profile.fec.isValid = true
  pause : profile.specifiesPause = false → profile.pause.isValid = true
  breakout : profile.specifiesBreakout = false → profile.breakout.isValid = true
  mode : profile.specifiesMode = false → profile.mode.isValid = true
  protocol : profile.specifiesProtocol = false → profile.protocol.isValid = true

theorem PortConfiguration.readable_of_validate {configuration : PortConfiguration}
    (valid : configuration.validate = .ok ()) : configuration.Readable := by
  simp only [PortConfiguration.validate, Checks.require_eq_ok, Provenance.valid,
    Bool.and_eq_true] at valid
  obtain ⟨_, _, _, _, _, administrative, mode, protocol, speed, duplex, mtu, lanes, breakout,
    autoneg, fec, pause, _, _, provenance, _⟩ := valid
  exact ⟨administrative, mode, protocol, SpeedSetting.selection_valid speed, duplex, mtu, lanes,
    breakout, autoneg, fec, pause, provenance.1.1⟩

/-- A valid profile is readable when the dimensions it does not specify are canonical. -/
theorem ProfileConfiguration.readable_iff {profile : ProfileConfiguration}
    (valid : profile.validate = .ok ()) : profile.Readable ↔ profile.Canonical := by
  constructor
  · intro readable
    refine ⟨fun _ => readable.selection, fun unspecified => ?_, fun _ => readable.duplex,
      fun _ => readable.autoneg, fun _ => readable.fec, fun _ => readable.pause,
      fun _ => readable.breakout, fun _ => readable.mode, fun _ => readable.protocol⟩
    rw [readable.mtu, unspecified]
  · intro canonical
    have checked := valid
    simp only [ProfileConfiguration.validate, Checks.refuseIf_eq_ok, Checks.within_eq_ok,
      Bool.and_eq_false_imp, Bool.not_eq_false'] at checked
    obtain ⟨speed, mtu, duplex, autoneg, fec, pause, breakout, mode, protocol, _⟩ := checked
    have either : ∀ {specified legal : Bool}, (specified = true → legal = true) →
        (specified = false → legal = true) → legal = true := by
      intro specified legal present absent
      cases specified with
      | false => exact absent rfl
      | true => exact present rfl
    refine ⟨valid, either (fun specified => SpeedSetting.selection_valid (speed specified))
        canonical.selection, ?_, either duplex canonical.duplex,
      either autoneg canonical.autoneg, either fec canonical.fec, either pause canonical.pause,
      either breakout canonical.breakout, either mode canonical.mode,
      either protocol canonical.protocol⟩
    cases specified : profile.specifiesMtu with
    | false => exact canonical.mtu specified
    | true => exact mtu specified

theorem PortProfile.validate_configuration {profile : PortProfile}
    (valid : profile.validate = .ok ()) : profile.configuration.validate = .ok () := by
  simp only [PortProfile.validate, Checks.require_eq_ok, Checks.refuseIf_eq_ok,
    Checks.within_eq_ok] at valid
  exact valid.2.2.2.2.1

theorem PortProfile.readable_iff {profile : PortProfile} :
    (profile.configuration.Readable ∧ profile.validate = .ok ()) ↔
      profile.validate = .ok () ∧ profile.configuration.Canonical := by
  rw [and_comm]
  exact and_congr_right fun valid =>
    ProfileConfiguration.readable_iff (validate_configuration valid)

theorem PortRecord.legal_of_validate {record : PortRecord} (valid : record.validate = .ok ()) :
    record.lifecycle.isValid = true ∧ record.drift.isValid = true ∧
      record.applied.outcome.isValid = true ∧ record.capability.valid = true ∧
      record.ownershipConsistent = true ∧ record.validateConfiguration = .ok () := by
  simp only [PortRecord.validate, Checks.require_eq_ok, Checks.within_eq_ok] at valid
  obtain ⟨_, _, lifecycle, drift, outcome, capability, ownership, configuration, _⟩ := valid
  exact ⟨lifecycle, drift, outcome, capability, ownership, configuration⟩

theorem PortRecord.readable_configuration {record : PortRecord}
    (valid : record.validate = .ok ()) {configuration : PortConfiguration}
    (carried : record.configuration = some configuration) : configuration.Readable := by
  have checked := (PortRecord.legal_of_validate valid).2.2.2.2.2
  rw [PortRecord.validateConfiguration, carried] at checked
  simp only [Checks.within_eq_ok] at checked
  exact PortConfiguration.readable_of_validate checked.1

namespace ByteReader

section Fields

theorem reads_strongId {domain : IdDomain} :
    Reads (fun _ => True) (readStrongId : ByteReader (StrongId domain)) ByteLayout.id
      fun _ => True := by
  have inverse : ∀ (value : Text) (id : StrongId domain),
      (if value.isEmpty then some .null else StrongId.parse value) = some id ↔
        True ∧ id.value = value := by
    intro value id
    split
    · next empty =>
        rw [List.isEmpty_iff.mp empty, Option.some_inj]
        constructor
        · intro same
          subst same
          exact ⟨trivial, rfl⟩
        · intro given
          rcases given with ⟨_, same⟩
          exact StrongId.ext same.symm
    · next written =>
        rw [StrongId.parse_eq_some]
        constructor
        · intro held
          exact ⟨trivial, held.2⟩
        · intro given
          rcases given with ⟨_, rfl⟩
          have wellFormed := id.wellFormed
          exact ⟨wellFormed.resolve_left fun empty => written (List.isEmpty_iff.mpr empty), rfl⟩
  exact (Reads.convert (reads_text _ (by decide)) inverse).congr (fun _ => rfl)
    fun _ => and_self_iff

theorem reads_generation {domain : GenerationDomain} :
    Reads (fun _ => True) (generation : ByteReader (Generation domain)) ByteLayout.generation
      fun _ => True := by
  intro input value rest
  simp only [generation, run_bind_ok, run_pure_ok, reads_u64 _ _ _]
  constructor
  · intro given
    rcases given with ⟨_, _, ⟨_, _, written⟩, rfl, rfl⟩
    exact ⟨trivial, trivial, written⟩
  · intro given
    rcases given with ⟨_, _, written⟩
    have bounded : value.value < 2 ^ 64 := Nat.lt_succ_of_le value.bounded
    have word : (UInt64.ofNat value.value).toNat = value.value :=
      UInt64.toNat_ofNat_of_lt' bounded
    refine ⟨UInt64.ofNat value.value, rest, ⟨trivial, trivial, ?_⟩, Generation.ext word, rfl⟩
    rw [word]
    exact written

theorem unsigned_one_mod (value : Nat) :
    ByteLayout.unsigned 1 (UInt8.ofNat value).toNat = ByteLayout.unsigned 1 value := by
  have low : UInt8.ofNat (value % 256) = UInt8.ofNat value :=
    UInt8.toNat_inj.mp (by simp [UInt8.toNat_ofNat'])
  simp [ByteLayout.unsigned, littleEndian, low]

theorem reads_enum {α : Type} [WireEnum α] :
    Reads (fun _ => True) (readEnum : ByteReader α) ByteLayout.enum
      (fun value => WireEnum.isValid value = true) := by
  have inverse : ∀ (raw : UInt8) (value : α), WireEnum.ofByte raw.toNat = some value ↔
      WireEnum.isValid value = true ∧ UInt8.ofNat (WireEnum.byte value) = raw := by
    intro raw value
    rw [WireEnum.ofByte_eq_some]
    refine and_congr_right fun valid => ?_
    constructor
    · intro same
      rw [same, UInt8.ofNat_toNat]
    · intro same
      subst same
      exact (UInt8.toNat_ofNat_of_lt' (WireEnum.byte_lt value valid)).symm
  exact (Reads.convert reads_u8 inverse).congr (fun _ => unsigned_one_mod _)
    fun _ => and_iff_left trivial

theorem counts_bounded {limit : Nat} (narrow : limit < 2 ^ 32) :
    Reads.Counts (readBoundedCount limit) (ByteLayout.unsigned 4) limit := by
  intro input value rest
  have step : ∀ (count : UInt32) middle,
      (if count.toNat > limit then fail
        else if count.toNat > middle.length then fail
        else return count.toNat : ByteReader Nat).run middle = .ok (value, rest) ↔
      (value ≤ limit ∧ value ≤ rest.length) ∧ count.toNat = value ∧ middle = rest := by
    intro count middle
    split
    · next beyond =>
        refine iff_of_false run_throw_ne_ok ?_
        intro given
        rcases given with ⟨⟨bounded, _⟩, rfl, _⟩
        omega
    · next within =>
        split
        · next beyond =>
            refine iff_of_false run_throw_ne_ok ?_
            intro given
            rcases given with ⟨⟨_, room⟩, rfl, rfl⟩
            omega
        · next room =>
            rw [run_pure_ok]
            constructor
            · intro given
              rcases given with ⟨rfl, rfl⟩
              exact ⟨⟨Nat.not_lt.mp within, Nat.not_lt.mp room⟩, rfl, rfl⟩
            · intro given
              rcases given with ⟨_, same, left⟩
              exact ⟨same, left⟩
  simp only [readBoundedCount, run_bind_ok, run_get_ok, reads_u32 _ _ _]
  constructor
  · intro given
    rcases given with ⟨count, _, ⟨_, _, written⟩, _, _, ⟨rfl, rfl⟩, read⟩
    obtain ⟨bounds, rfl, rfl⟩ := (step count _).mp read
    exact ⟨bounds, written⟩
  · intro given
    rcases given with ⟨bounds, written⟩
    have word : (UInt32.ofNat value).toNat = value :=
      UInt32.toNat_ofNat_of_lt' (Nat.lt_of_le_of_lt bounds.1 narrow)
    refine ⟨UInt32.ofNat value, rest, ⟨trivial, trivial, ?_⟩, rest, rest, ⟨rfl, rfl⟩,
      (step _ _).mpr ⟨bounds, word, rfl⟩⟩
    rw [word]
    exact written

theorem reads_list {α : Type} {read : ByteReader α} {layout : α → ByteLayout}
    {legal : α → Prop} {limit : Nat} (narrow : limit < 2 ^ 32)
    (reads : Reads (fun _ => True) read layout legal)
    (substantial : Reads.Substantial layout legal) :
    Reads (fun _ => True) (readList limit read) (ByteLayout.list layout)
      (fun values => values.length ≤ limit ∧ ∀ value ∈ values, legal value) :=
  Reads.counted (counts_bounded narrow) substantial reads.times fun _ => id

theorem substantial_unsigned {α : Type} {width : Nat} {value : α → Nat} {legal : α → Prop}
    (positive : 0 < width) :
    Reads.Substantial (fun found => ByteLayout.unsigned width (value found)) legal := by
  intro found document _ written
  obtain rfl : littleEndian width (value found) = document := by
    simpa [ByteLayout.unsigned] using written
  rw [← List.length_pos_iff, length_littleEndian]
  exact positive

theorem reads_enums {α : Type} [WireEnum α] :
    Reads (fun _ => True) (readList maxModeEntries (readEnum : ByteReader α))
      (ByteLayout.list ByteLayout.enum)
      (fun values => values.length ≤ maxModeEntries ∧
        ∀ value ∈ values, WireEnum.isValid value = true) :=
  reads_list (by decide) reads_enum (substantial_unsigned (by decide))

theorem reads_accept {α : Type} {side : α → Prop} {made : α} (check : α → Bool)
    (same : ∀ value, side value ↔ made = value) :
    Reads side (accept made (check made)) (fun _ => [].flatten)
      (fun value => check value = true) := by
  refine .made fun input value rest => ?_
  rw [same, accept]
  split
  · next accepted =>
      rw [run_pure_ok]
      constructor
      · intro given
        rcases given with ⟨rfl, rfl⟩
        exact ⟨rfl, accepted, rfl⟩
      · intro given
        rcases given with ⟨rfl, _, rfl⟩
        exact ⟨rfl, rfl⟩
  · next refused =>
      refine iff_of_false run_throw_ne_ok ?_
      intro given
      rcases given with ⟨rfl, accepted, _⟩
      exact refused accepted

theorem reads_validated {ε α : Type} {side : α → Prop} {made : α} (validate : α → Except ε Unit)
    (same : ∀ value, side value ↔ made = value) :
    Reads side (accept made (validate made).isOk) (fun _ => [].flatten)
      (fun value => validate value = .ok ()) :=
  (reads_accept (fun value => (validate value).isOk) same).congr (fun _ => rfl)
    fun _ => Checks.isOk_iff

end Fields

section Characteristics

theorem reads_speed :
    Reads (fun _ => True) readSpeed ByteLayout.speed (fun speed => speed.valid = true) := by
  have inverse : ∀ (bits : UInt64) (speed : PortSpeed),
      PortSpeed.fromBitsPerSecond bits.toNat = some speed ↔
        speed.valid = true ∧ UInt64.ofNat speed.bitsPerSecond = bits := by
    intro bits speed
    rw [PortSpeed.fromBits_eq_some]
    refine and_congr_right fun _ => ?_
    constructor
    · intro same
      rw [same, UInt64.ofNat_toNat]
    · intro same
      subst same
      exact (UInt64.toNat_ofNat_of_lt' (PortSpeed.lt_word speed)).symm
  refine (Reads.convert reads_u64 inverse).congr (fun speed => ?_) fun _ => and_iff_left trivial
  rw [UInt64.toNat_ofNat_of_lt' (PortSpeed.lt_word speed)]
  rfl

theorem reads_rate : Reads (fun _ => True) readRate ByteLayout.speed fun _ => True := by
  have inverse : ∀ (bits : UInt64) (speed : PortSpeed),
      (if bits = 0 then some .unspecified else PortSpeed.fromBitsPerSecond bits.toNat) =
          some speed ↔
        True ∧ UInt64.ofNat speed.bitsPerSecond = bits := by
    intro bits speed
    split
    · next zero =>
        subst zero
        constructor
        · intro given
          cases given
          exact ⟨trivial, rfl⟩
        · intro given
          rcases given with ⟨_, zero⟩
          have none : speed.bitsPerSecond = 0 := by
            rw [← UInt64.toNat_ofNat_of_lt' (PortSpeed.lt_word speed), zero]
            rfl
          cases speed
          cases none
          rfl
    · next rated =>
        rw [PortSpeed.fromBits_eq_some]
        constructor
        · intro given
          rcases given with ⟨_, same⟩
          rw [same, UInt64.ofNat_toNat]
          exact ⟨trivial, rfl⟩
        · intro given
          rcases given with ⟨_, rfl⟩
          rw [UInt64.toNat_ofNat_of_lt' (PortSpeed.lt_word speed)]
          refine ⟨decide_eq_true fun zero => rated ?_, rfl⟩
          rw [zero]
          rfl
  refine (Reads.convert reads_u64 inverse).congr (fun speed => ?_) fun _ => and_self_iff
  rw [UInt64.toNat_ofNat_of_lt' (PortSpeed.lt_word speed)]
  rfl

theorem reads_mtu :
    Reads (fun _ => True) readMtu ByteLayout.mtu (fun mtu => mtu.valid = true) := by
  have inverse : ∀ (value : UInt32) (mtu : Mtu),
      Mtu.create value.toNat = some mtu ↔ mtu.valid = true ∧ UInt32.ofNat mtu.value = value := by
    intro value mtu
    rw [Mtu.create_eq_some]
    refine and_congr_right fun _ => ?_
    constructor
    · intro same
      rw [same, UInt32.ofNat_toNat]
    · intro same
      subst same
      exact (UInt32.toNat_ofNat_of_lt' (Mtu.lt_word mtu)).symm
  refine (Reads.convert reads_u32 inverse).congr (fun mtu => ?_) fun _ => and_iff_left trivial
  rw [UInt32.toNat_ofNat_of_lt' (Mtu.lt_word mtu)]
  rfl

theorem reads_unspecifiedMtu :
    Reads (fun _ => True) (u32.convert (fun value => if value = 0 then some .unspecified else none)
      ()) ByteLayout.mtu (fun mtu => mtu.value = 0) := by
  have inverse : ∀ (value : UInt32) (mtu : Mtu),
      (if value = 0 then some .unspecified else none) = some mtu ↔
        mtu.value = 0 ∧ UInt32.ofNat mtu.value = value := by
    intro value mtu
    split
    · next zero =>
        subst zero
        constructor
        · intro given
          cases given
          exact ⟨rfl, rfl⟩
        · intro given
          rcases given with ⟨zero, _⟩
          cases mtu
          cases zero
          rfl
    · next other =>
        refine iff_of_false nofun ?_
        intro given
        rcases given with ⟨zero, rfl⟩
        rw [zero] at other
        exact other rfl
  refine (Reads.convert reads_u32 inverse).congr (fun mtu => ?_) fun _ => and_iff_left trivial
  rw [UInt32.toNat_ofNat_of_lt' (Mtu.lt_word mtu)]
  rfl

theorem reads_lanes :
    Reads (fun _ => True) readLanes ByteLayout.lanes (fun lanes => lanes.valid = true) := by
  have word : ∀ lanes : LaneConfiguration, (UInt32.ofNat lanes.lanes).toNat = lanes.lanes :=
    fun lanes => UInt32.toNat_ofNat_of_lt' (LaneConfiguration.lt_word lanes)
  have reads : Reads (fun _ => True) readLanes
      (fun lanes => [ByteLayout.unsigned 4 (UInt32.ofNat lanes.lanes).toNat,
        ByteLayout.speed lanes.perLane].flatten) (fun lanes => lanes.valid = true) := by
    unfold readLanes
    refine .free (fun lanes : LaneConfiguration => UInt32.ofNat lanes.lanes) reads_u32
      fun count => ?_
    refine .implied LaneConfiguration.perLane reads_speed
      (fun _ => LaneConfiguration.valid_perLane) fun perLane => ?_
    refine .made fun input lanes rest => ?_
    have same : UInt32.ofNat lanes.lanes = count ↔ lanes.lanes = count.toNat := by
      rw [← UInt32.toNat_inj, word]
    split
    · next made =>
        obtain ⟨valid, counted, rated⟩ := LaneConfiguration.create_eq_some.mp made
        rw [run_pure_ok, same]
        constructor
        · intro given
          rcases given with ⟨rfl, rfl⟩
          exact ⟨⟨⟨trivial, counted⟩, rated⟩, valid, rfl⟩
        · intro given
          rcases given with ⟨⟨⟨_, counted⟩, rated⟩, valid, rfl⟩
          have found := LaneConfiguration.create_eq_some.mpr ⟨valid, counted, rated⟩
          exact ⟨Option.some_inj.mp (made.symm.trans found), rfl⟩
    · next none =>
        rw [same]
        refine iff_of_false run_throw_ne_ok ?_
        intro given
        rcases given with ⟨⟨⟨_, counted⟩, rated⟩, valid, _⟩
        cases none.symm.trans (LaneConfiguration.create_eq_some.mpr ⟨valid, counted, rated⟩)
  refine reads.congr (fun lanes => ?_) fun _ => Iff.rfl
  rw [word]
  rfl

end Characteristics

section Values

theorem reads_capabilities :
    Reads (fun _ => True) readCapabilities ByteLayout.capabilities
      (fun capabilities => capabilities.validate = .ok ()) := by
  have legal := @PortCapabilities.legal_of_validate
  unfold readCapabilities ByteLayout.capabilities
  refine .implied PortCapabilities.certainty reads_enum (fun _ valid => (legal valid).1.1)
    fun _ => ?_
  refine .implied PortCapabilities.supportedSpeeds
    (reads_list (by decide) reads_speed (substantial_unsigned (by decide)))
    (fun _ valid => (legal valid).2.1) fun _ => ?_
  refine .implied PortCapabilities.laneModes
    (reads_list (by decide) reads_u32 (substantial_unsigned (by decide)))
    (fun _ valid => ⟨(legal valid).2.2.1, fun _ _ => trivial⟩) fun _ => ?_
  refine .free PortCapabilities.maxLanes reads_u32 fun _ => ?_
  refine .free PortCapabilities.breakoutSupported reads_boolean fun _ => ?_
  refine .free PortCapabilities.maxBreakoutChildren reads_u32 fun _ => ?_
  refine .implied PortCapabilities.fecModes reads_enums
    (fun _ valid => (legal valid).2.2.2.1) fun _ => ?_
  refine .implied PortCapabilities.autonegModes reads_enums
    (fun _ valid => (legal valid).2.2.2.2.1) fun _ => ?_
  refine .implied PortCapabilities.pauseModes reads_enums
    (fun _ valid => (legal valid).2.2.2.2.2.1) fun _ => ?_
  refine .implied PortCapabilities.protocolFamilies reads_enums
    (fun _ valid => (legal valid).2.2.2.2.2.2) fun _ => ?_
  refine .free PortCapabilities.capabilityMtuMin reads_u32 fun _ => ?_
  refine .free PortCapabilities.capabilityMtuMax reads_u32 fun _ => ?_
  refine .implied PortCapabilities.duplex reads_enum (fun _ valid => (legal valid).1.2)
    fun _ => ?_
  refine .free PortCapabilities.logicalInterfaceSupported reads_boolean fun _ => ?_
  refine .free PortCapabilities.maxQueueCount reads_u32 fun _ => ?_
  refine .free PortCapabilities.transceiverRequired reads_boolean fun _ => ?_
  refine .free PortCapabilities.transceiverClass (reads_text _ (by decide)) fun _ => ?_
  refine reads_validated PortCapabilities.validate fun value => ?_
  cases value
  simp [and_assoc, eq_comm]

theorem reads_provenance :
    Reads (fun _ => True) readProvenance ByteLayout.provenance
      (fun provenance => provenance.kind.isValid = true) := by
  unfold readProvenance ByteLayout.provenance
  refine .congr ?_ (fun _ => rfl) fun _ => and_iff_left trivial
  refine .field Provenance.kind reads_enum fun _ => ?_
  refine .free Provenance.source (reads_text _ (by decide)) fun _ => ?_
  refine .free Provenance.publisher reads_strongId fun _ => ?_
  refine .free Provenance.boot reads_strongId fun _ => ?_
  refine .free Provenance.epoch reads_generation fun _ => ?_
  refine .free Provenance.attempt reads_strongId fun _ => ?_
  refine .done fun value => ?_
  cases value
  simp [and_assoc, eq_comm]

theorem reads_configuration :
    Reads (fun _ => True) readConfiguration ByteLayout.configuration
      PortConfiguration.Readable := by
  have reads : Reads (fun _ => True) readConfiguration ByteLayout.configuration
      (fun value => value.administrative.isValid = true ∧ value.mode.isValid = true ∧
        value.protocol.isValid = true ∧ value.speed.selection.isValid = true ∧
        value.duplex.isValid = true ∧ value.mtu.valid = true ∧ value.lanes.valid = true ∧
        value.breakout.isValid = true ∧ value.autoneg.isValid = true ∧
        value.fec.isValid = true ∧ value.pause.isValid = true ∧
        value.provenance.kind.isValid = true ∧ True) := by
    unfold readConfiguration ByteLayout.configuration
    refine .free PortConfiguration.record reads_strongId fun _ => ?_
    refine .free PortConfiguration.port reads_strongId fun _ => ?_
    refine .free PortConfiguration.parentDevice reads_strongId fun _ => ?_
    refine .free PortConfiguration.deviceGeneration reads_generation fun _ => ?_
    refine .free PortConfiguration.topologyGeneration reads_generation fun _ => ?_
    refine .free PortConfiguration.generation reads_generation fun _ => ?_
    refine .field PortConfiguration.administrative reads_enum fun _ => ?_
    refine .field PortConfiguration.mode reads_enum fun _ => ?_
    refine .field PortConfiguration.protocol reads_enum fun _ => ?_
    refine .field (fun value : PortConfiguration => value.speed.selection) reads_enum fun _ => ?_
    refine .free (fun value : PortConfiguration => value.speed.rate) reads_rate fun _ => ?_
    refine .field PortConfiguration.duplex reads_enum fun _ => ?_
    refine .field PortConfiguration.mtu reads_mtu fun _ => ?_
    refine .field PortConfiguration.lanes reads_lanes fun _ => ?_
    refine .field PortConfiguration.breakout reads_enum fun _ => ?_
    refine .field PortConfiguration.autoneg reads_enum fun _ => ?_
    refine .field PortConfiguration.fec reads_enum fun _ => ?_
    refine .field PortConfiguration.pause reads_enum fun _ => ?_
    refine .free (fun value : PortConfiguration => value.aggregation.member) reads_boolean
      fun _ => ?_
    refine .free (fun value : PortConfiguration => value.aggregation.aggregate) reads_strongId
      fun _ => ?_
    refine .free (fun value : PortConfiguration => value.aggregation.generation) reads_generation
      fun _ => ?_
    refine .free (fun value : PortConfiguration => value.aggregation.administrativeParticipation)
      reads_boolean fun _ => ?_
    refine .free (fun value : PortConfiguration => value.profile.bound) reads_boolean fun _ => ?_
    refine .free (fun value : PortConfiguration => value.profile.id) reads_strongId fun _ => ?_
    refine .free (fun value : PortConfiguration => value.profile.generation) reads_generation
      fun _ => ?_
    refine .free PortConfiguration.role (reads_text _ (by decide)) fun _ => ?_
    refine .free PortConfiguration.logicalIdentity reads_strongId fun _ => ?_
    refine .free PortConfiguration.derivedFrom reads_strongId fun _ => ?_
    refine .free PortConfiguration.childIndex reads_u32 fun _ => ?_
    refine .field PortConfiguration.provenance reads_provenance fun _ => ?_
    refine .free PortConfiguration.capabilityGeneration reads_generation fun _ => ?_
    refine .free PortConfiguration.evidenceGeneration reads_generation fun _ => ?_
    refine .done fun value => ?_
    simp only [PortConfiguration.ext_iff, SpeedSetting.ext_iff, AggregationMembership.ext_iff,
      ProfileBinding.ext_iff, true_and, and_assoc]
    simp only [eq_comm]
  exact reads.congr (fun _ => rfl) fun value =>
    ⟨fun ⟨administrative, mode, protocol, selection, duplex, mtu, lanes, breakout, autoneg, fec,
        pause, provenance, _⟩ =>
      ⟨administrative, mode, protocol, selection, duplex, mtu, lanes, breakout, autoneg, fec,
        pause, provenance⟩,
    fun ⟨administrative, mode, protocol, selection, duplex, mtu, lanes, breakout, autoneg, fec,
        pause, provenance⟩ =>
      ⟨administrative, mode, protocol, selection, duplex, mtu, lanes, breakout, autoneg, fec,
        pause, provenance, trivial⟩⟩

theorem reads_ownership :
    Reads (fun _ => True) readOwnership ByteLayout.ownership
      (fun ownership => ownership.valid = true) := by
  have legal : ∀ ownership : PortOwnership, ownership.valid = true →
      ownership.kind.isValid = true := by
    intro ownership valid
    simp only [PortOwnership.valid, Bool.and_eq_true] at valid
    exact valid.1.1.1.1.1.2
  unfold readOwnership ByteLayout.ownership
  refine .free PortOwnership.id reads_strongId fun _ => ?_
  refine .implied PortOwnership.kind reads_enum legal fun _ => ?_
  refine .free PortOwnership.owner reads_strongId fun _ => ?_
  refine .free PortOwnership.generation reads_generation fun _ => ?_
  refine .free PortOwnership.publisher reads_strongId fun _ => ?_
  refine .free PortOwnership.boot reads_strongId fun _ => ?_
  refine .free PortOwnership.epoch reads_generation fun _ => ?_
  refine .free PortOwnership.exclusive reads_boolean fun _ => ?_
  refine reads_accept PortOwnership.valid fun value => ?_
  cases value
  simp [and_assoc, eq_comm]

theorem reads_capabilityBinding :
    Reads (fun _ => True) readCapabilityBinding ByteLayout.capabilityBinding
      (fun binding => binding.capabilities.validate = .ok () ∧ binding.valid = true) := by
  unfold readCapabilityBinding ByteLayout.capabilityBinding
  refine .free CapabilityBinding.present reads_boolean fun _ => ?_
  refine .free CapabilityBinding.generation reads_generation fun _ => ?_
  refine .free CapabilityBinding.evidenceGeneration reads_generation fun _ => ?_
  refine .free CapabilityBinding.evidence reads_strongId fun _ => ?_
  refine .free CapabilityBinding.source (reads_text _ (by decide)) fun _ => ?_
  refine .field CapabilityBinding.capabilities reads_capabilities fun _ => ?_
  refine reads_accept CapabilityBinding.valid fun value => ?_
  cases value
  simp only [true_and, and_assoc, CapabilityBinding.mk.injEq]
  constructor
  · intro given
    rcases given with ⟨rfl, rfl, rfl, rfl, rfl, rfl⟩
    simp
  · intro given
    rcases given with ⟨rfl, rfl, rfl, rfl, rfl, rfl⟩
    simp

theorem reads_generations :
    Reads (fun _ => True) readGenerations ByteLayout.generations fun _ => True := by
  unfold readGenerations ByteLayout.generations
  refine .free GenerationVector.configuration reads_generation fun _ => ?_
  refine .free GenerationVector.administrative reads_generation fun _ => ?_
  refine .free GenerationVector.ownership reads_generation fun _ => ?_
  refine .free GenerationVector.capability reads_generation fun _ => ?_
  refine .free GenerationVector.topology reads_generation fun _ => ?_
  refine .free GenerationVector.device reads_generation fun _ => ?_
  refine .free GenerationVector.lifecycle reads_generation fun _ => ?_
  refine .free GenerationVector.evidence reads_generation fun _ => ?_
  refine .done fun value => ?_
  cases value
  simp [and_assoc, eq_comm]

theorem reads_record :
    Reads (fun _ => True) readRecord ByteLayout.record PortRecord.Readable := by
  have reads : Reads (fun _ => True) readRecord ByteLayout.record
      (fun value => (value.capability.capabilities.validate = .ok () ∧
        value.capability.valid = true) ∧ value.provenance.kind.isValid = true ∧
        value.validate = .ok ()) := by
    unfold readRecord ByteLayout.record
    refine .free PortRecord.port reads_strongId fun _ => ?_
    refine .free PortRecord.parentDevice reads_strongId fun _ => ?_
    refine .implied PortRecord.lifecycle reads_enum
      (fun _ accepted => (PortRecord.legal_of_validate accepted.2.2).1) fun _ => ?_
    refine .implied PortRecord.configuration (reads_boolean.optional reads_configuration)
      (fun _ accepted _ => PortRecord.readable_configuration accepted.2.2) fun _ => ?_
    refine .implied PortRecord.ownership (reads_boolean.optional reads_ownership)
      (fun value accepted ownership held => ?_) fun _ => ?_
    · have consistent := (PortRecord.legal_of_validate accepted.2.2).2.2.2.2.1
      rw [PortRecord.ownershipConsistent, held] at consistent
      exact consistent
    refine .field PortRecord.capability reads_capabilityBinding fun _ => ?_
    refine .implied (fun value : PortRecord => value.applied.outcome) reads_enum
      (fun _ accepted => (PortRecord.legal_of_validate accepted.2).2.2.1) fun _ => ?_
    refine .free (fun value : PortRecord => value.applied.generation) reads_generation fun _ => ?_
    refine .free (fun value : PortRecord => value.applied.evidenceGeneration) reads_generation
      fun _ => ?_
    refine .free (fun value : PortRecord => value.applied.source) (reads_text _ (by decide))
      fun _ => ?_
    refine .free (fun value : PortRecord => value.applied.verified) reads_boolean fun _ => ?_
    refine .implied PortRecord.drift reads_enum
      (fun _ accepted => (PortRecord.legal_of_validate accepted.2).2.1) fun _ => ?_
    refine .free PortRecord.generations reads_generations fun _ => ?_
    refine .field PortRecord.provenance reads_provenance fun _ => ?_
    refine .free (fun value : PortRecord => value.lastMutation.attempt) reads_strongId
      fun _ => ?_
    refine .free (fun value : PortRecord => value.lastMutation.payloadDigest) reads_u64
      fun _ => ?_
    refine .free (fun value : PortRecord => value.lastMutation.resultGeneration) reads_generation
      fun _ => ?_
    refine .free PortRecord.statusReason (reads_text _ (by decide)) fun _ => ?_
    refine .free PortRecord.statusDetail (reads_text _ (by decide)) fun _ => ?_
    refine reads_validated PortRecord.validate fun value => ?_
    simp only [PortRecord.ext_iff, AppliedEvidence.ext_iff, LastMutationRecord.ext_iff, true_and,
      and_assoc]
    simp only [eq_comm]
  refine reads.congr (fun _ => rfl) fun value => ?_
  constructor
  · intro given
    rcases given with ⟨⟨capabilities, _⟩, provenance, valid⟩
    exact ⟨valid, capabilities, provenance⟩
  · intro given
    rcases given with ⟨valid, capabilities, provenance⟩
    exact ⟨⟨capabilities, (PortRecord.legal_of_validate valid).2.2.2.1⟩, provenance, valid⟩

theorem reads_profileMtu (specified : Bool) :
    Reads (fun _ => True) (readProfileMtu specified) ByteLayout.mtu
      (fun mtu => mtu.valid = specified) := by
  cases specified with
  | true => exact reads_mtu
  | false =>
      refine reads_unspecifiedMtu.congr (fun _ => rfl) fun mtu => ?_
      simp [Mtu.valid]

theorem reads_profileConfiguration :
    Reads (fun _ => True) readProfileConfiguration ByteLayout.profileConfiguration
      ProfileConfiguration.Readable := by
  have reads : Reads (fun _ => True) readProfileConfiguration ByteLayout.profileConfiguration
      (fun value => value.speed.selection.isValid = true ∧
        value.mtu.valid = value.specifiesMtu ∧ value.duplex.isValid = true ∧
        value.autoneg.isValid = true ∧ value.fec.isValid = true ∧ value.pause.isValid = true ∧
        value.breakout.isValid = true ∧ value.mode.isValid = true ∧
        value.protocol.isValid = true ∧ value.validate = .ok ()) := by
    unfold readProfileConfiguration ByteLayout.profileConfiguration
    refine .free ProfileConfiguration.specifiesSpeed reads_boolean fun _ => ?_
    refine .field (fun value : ProfileConfiguration => value.speed.selection) reads_enum
      fun _ => ?_
    refine .free (fun value : ProfileConfiguration => value.speed.rate) reads_rate fun _ => ?_
    refine .free ProfileConfiguration.specifiesMtu reads_boolean fun specified => ?_
    refine .agree (.field ProfileConfiguration.mtu (reads_profileMtu specified) fun _ => ?_)
      fun value side => by rw [side.2]
    refine .free ProfileConfiguration.specifiesDuplex reads_boolean fun _ => ?_
    refine .field ProfileConfiguration.duplex reads_enum fun _ => ?_
    refine .free ProfileConfiguration.specifiesAutoneg reads_boolean fun _ => ?_
    refine .field ProfileConfiguration.autoneg reads_enum fun _ => ?_
    refine .free ProfileConfiguration.specifiesFec reads_boolean fun _ => ?_
    refine .field ProfileConfiguration.fec reads_enum fun _ => ?_
    refine .free ProfileConfiguration.specifiesPause reads_boolean fun _ => ?_
    refine .field ProfileConfiguration.pause reads_enum fun _ => ?_
    refine .free ProfileConfiguration.specifiesBreakout reads_boolean fun _ => ?_
    refine .field ProfileConfiguration.breakout reads_enum fun _ => ?_
    refine .free ProfileConfiguration.specifiesMode reads_boolean fun _ => ?_
    refine .field ProfileConfiguration.mode reads_enum fun _ => ?_
    refine .free ProfileConfiguration.specifiesProtocol reads_boolean fun _ => ?_
    refine .field ProfileConfiguration.protocol reads_enum fun _ => ?_
    refine .free ProfileConfiguration.specifiesAggregation reads_boolean fun _ => ?_
    refine .free ProfileConfiguration.aggregateParticipation reads_boolean fun _ => ?_
    refine .free ProfileConfiguration.specifiesRole reads_boolean fun _ => ?_
    refine .free ProfileConfiguration.role (reads_text _ (by decide)) fun _ => ?_
    refine reads_validated ProfileConfiguration.validate fun value => ?_
    simp only [ProfileConfiguration.ext_iff, SpeedSetting.ext_iff, true_and, and_assoc]
    simp only [eq_comm]
  exact reads.congr (fun _ => rfl) fun value =>
    ⟨fun ⟨selection, mtu, duplex, autoneg, fec, pause, breakout, mode, protocol, consistent⟩ =>
      ⟨consistent, selection, mtu, duplex, autoneg, fec, pause, breakout, mode, protocol⟩,
    fun ⟨consistent, selection, mtu, duplex, autoneg, fec, pause, breakout, mode, protocol⟩ =>
      ⟨selection, mtu, duplex, autoneg, fec, pause, breakout, mode, protocol, consistent⟩⟩

theorem reads_profile :
    Reads (fun _ => True) readProfile ByteLayout.profile
      (fun profile => profile.configuration.Readable ∧ profile.validate = .ok ()) := by
  have legal : ∀ profile : PortProfile, profile.validate = .ok () →
      profile.provenance.kind.isValid = true := by
    intro profile valid
    simp only [PortProfile.validate, Checks.require_eq_ok, Checks.refuseIf_eq_ok,
      Checks.within_eq_ok, Bool.and_eq_true] at valid
    exact valid.2.2.2.2.2.1.1
  unfold readProfile ByteLayout.profile
  refine .free PortProfile.id reads_strongId fun _ => ?_
  refine .free PortProfile.generation reads_generation fun _ => ?_
  refine .free PortProfile.name (reads_text _ (by decide)) fun _ => ?_
  refine .free PortProfile.description (reads_text _ (by decide)) fun _ => ?_
  refine .field PortProfile.configuration reads_profileConfiguration fun _ => ?_
  refine .implied PortProfile.provenance reads_provenance legal fun _ => ?_
  refine reads_validated PortProfile.validate fun value => ?_
  cases value
  simp [and_assoc, eq_comm]

theorem reads_device :
    Reads (fun _ => True) readDevice ByteLayout.device
      (fun device => (device.device.valid && device.generation.valid) = true) := by
  unfold readDevice ByteLayout.device
  refine .free DeviceBinding.device reads_strongId fun _ => ?_
  refine .free DeviceBinding.generation reads_generation fun _ => ?_
  refine .free DeviceBinding.source (reads_text _ (by decide)) fun _ => ?_
  refine reads_accept (fun binding : DeviceBinding =>
    binding.device.valid && binding.generation.valid) fun value => ?_
  cases value
  simp [and_assoc, eq_comm]

theorem reads_publisher :
    Reads (fun _ => True) readPublisher ByteLayout.publisher
      (fun publisher => (publisher.publisher.valid && publisher.boot.valid) = true) := by
  unfold readPublisher ByteLayout.publisher
  refine .free PublisherRecord.publisher reads_strongId fun _ => ?_
  refine .free PublisherRecord.boot reads_strongId fun _ => ?_
  refine .free PublisherRecord.epoch reads_generation fun _ => ?_
  refine .free PublisherRecord.fenced reads_boolean fun _ => ?_
  refine reads_accept (fun record : PublisherRecord =>
    record.publisher.valid && record.boot.valid) fun value => ?_
  cases value
  simp [and_assoc, eq_comm]

theorem reads_authority :
    Reads (fun _ => True) readAuthority ByteLayout.authority fun _ => True := by
  unfold readAuthority ByteLayout.authority
  refine .free AuthorityContext.epoch reads_generation fun _ => ?_
  refine .free AuthorityContext.publisher reads_strongId fun _ => ?_
  refine .free AuthorityContext.boot reads_strongId fun _ => ?_
  refine .free AuthorityContext.ownership reads_strongId fun _ => ?_
  refine .free AuthorityContext.ownershipGeneration reads_generation fun _ => ?_
  refine .free AuthorityContext.expectedConfiguration reads_generation fun _ => ?_
  refine .free AuthorityContext.expectedCapability reads_generation fun _ => ?_
  refine .free AuthorityContext.expectedTopology reads_generation fun _ => ?_
  refine .free AuthorityContext.expectedDevice reads_generation fun _ => ?_
  refine .free AuthorityContext.attempt reads_strongId fun _ => ?_
  refine .done fun value => ?_
  cases value
  simp [and_assoc, eq_comm]

theorem reads_applied :
    Reads (fun _ => True) readApplied ByteLayout.applied
      (fun evidence => evidence.outcome.isValid = true) := by
  unfold readApplied ByteLayout.applied
  refine .congr ?_ (fun _ => rfl) fun _ => and_iff_left trivial
  refine .field AppliedEvidence.outcome reads_enum fun _ => ?_
  refine .free AppliedEvidence.generation reads_generation fun _ => ?_
  refine .free AppliedEvidence.evidenceGeneration reads_generation fun _ => ?_
  refine .free AppliedEvidence.source (reads_text _ (by decide)) fun _ => ?_
  refine .free AppliedEvidence.verified reads_boolean fun _ => ?_
  refine .done fun value => ?_
  cases value
  simp [and_assoc, eq_comm]

end Values

end ByteReader

end PortFabric
