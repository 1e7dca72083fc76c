import PortFabric.Protocol.MessageProperties

/-!
# Message identity

The payloads of different mutation messages are different, whether the decoder
accepts the messages or not, and so are the payloads of different outcomes.
-/

set_option autoImplicit false

namespace PortFabric

open Formats

/-! ## Enumerations -/

/-- No two values of an enumeration share a byte, undeclared values included. -/
class TellingEnum (α : Type) [WireEnum α] : Prop where
  byte_lt : ∀ value : α, WireEnum.byte value < 256
  byte_inj : ∀ value other : α, WireEnum.byte value = WireEnum.byte other → value = other

instance : TellingEnum PortMode where
  byte_lt value := by
    cases value <;> simp only [WireEnum.byte, PortMode.byte] <;> omega
  byte_inj value other same := by
    cases value <;> cases other <;> simp [WireEnum.byte, PortMode.byte] at same ⊢ <;> omega

instance : TellingEnum ProtocolFamily where
  byte_lt value := by
    cases value <;> simp only [WireEnum.byte, ProtocolFamily.byte] <;> omega
  byte_inj value other same := by
    cases value <;> cases other <;> simp [WireEnum.byte, ProtocolFamily.byte] at same ⊢ <;> omega

instance : TellingEnum FecMode where
  byte_lt value := by
    cases value <;> simp only [WireEnum.byte, FecMode.byte] <;> omega
  byte_inj value other same := by
    cases value <;> cases other <;> simp [WireEnum.byte, FecMode.byte] at same ⊢ <;> omega

instance : TellingEnum DuplexMode where
  byte_lt value := by
    cases value <;> simp only [WireEnum.byte, DuplexMode.byte] <;> omega
  byte_inj value other same := by
    cases value <;> cases other <;> simp [WireEnum.byte, DuplexMode.byte] at same ⊢ <;> omega

instance : TellingEnum AutonegPolicy where
  byte_lt value := by
    cases value <;> simp only [WireEnum.byte, AutonegPolicy.byte] <;> omega
  byte_inj value other same := by
    cases value <;> cases other <;> simp [WireEnum.byte, AutonegPolicy.byte] at same ⊢ <;> omega

instance : TellingEnum PauseMode where
  byte_lt value := by
    cases value <;> simp only [WireEnum.byte, PauseMode.byte] <;> omega
  byte_inj value other same := by
    cases value <;> cases other <;> simp [WireEnum.byte, PauseMode.byte] at same ⊢ <;> omega

instance : TellingEnum BreakoutMode where
  byte_lt value := by
    cases value <;> simp only [WireEnum.byte, BreakoutMode.byte] <;> omega
  byte_inj value other same := by
    cases value <;> cases other <;> simp [WireEnum.byte, BreakoutMode.byte] at same ⊢ <;> omega

instance : TellingEnum SpeedSelection where
  byte_lt value := by
    cases value <;> simp only [WireEnum.byte, SpeedSelection.byte] <;> omega
  byte_inj value other same := by
    cases value <;> cases other <;> simp [WireEnum.byte, SpeedSelection.byte] at same ⊢ <;> omega

instance : TellingEnum AdministrativeState where
  byte_lt value := by
    cases value <;> simp only [WireEnum.byte, AdministrativeState.byte] <;> omega
  byte_inj value other same := by
    cases value <;> cases other <;> simp [WireEnum.byte, AdministrativeState.byte] at same ⊢ <;>
      omega

instance : TellingEnum CapabilityCertainty where
  byte_lt value := by
    cases value <;> simp only [WireEnum.byte, CapabilityCertainty.byte] <;> omega
  byte_inj value other same := by
    cases value <;> cases other <;> simp [WireEnum.byte, CapabilityCertainty.byte] at same ⊢ <;>
      omega

instance : TellingEnum ProvenanceKind where
  byte_lt value := by
    cases value <;> simp only [WireEnum.byte, ProvenanceKind.byte] <;> omega
  byte_inj value other same := by
    cases value <;> cases other <;> simp [WireEnum.byte, ProvenanceKind.byte] at same ⊢ <;> omega

instance : TellingEnum AppliedOutcome where
  byte_lt value := by
    cases value <;> simp only [WireEnum.byte, AppliedOutcome.byte] <;> omega
  byte_inj value other same := by
    cases value <;> cases other <;> simp [WireEnum.byte, AppliedOutcome.byte] at same ⊢ <;> omega

/-! ## Layouts -/

namespace ByteLayout

theorem tells_unsigned {width value other bound : Nat} (small : value < 256 ^ width)
    (smaller : other < 256 ^ width) :
    Tells bound (unsigned width value) (unsigned width other) (value = other) := by
  intro front back rest left written wrote _ _ same
  rw [unsigned, Layout.document_piece, Option.some_inj] at written wrote
  subst written wrote
  obtain ⟨digits, later⟩ := List.append_inj same (by simp)
  exact ⟨littleEndian_inj small smaller digits, later⟩

theorem tells_enum {α : Type} [WireEnum α] [TellingEnum α] {bound : Nat} (value other : α) :
    Tells bound (enum value) (enum other) (value = other) :=
  (tells_unsigned (TellingEnum.byte_lt value) (TellingEnum.byte_lt other)).imp
    (TellingEnum.byte_inj value other)

theorem tells_word {bound : Nat} (value other : UInt32) :
    Tells bound (word value) (word other) (value = other) :=
  ByteReader.reads_u32.tells value other

theorem tells_boolean {bound : Nat} (value other : Bool) :
    Tells bound (boolean value) (boolean other) (value = other) :=
  ByteReader.reads_boolean.tells value other

theorem tells_name {bound : Nat} (value other : Text) :
    Tells bound (text value maxNameLength) (text other maxNameLength) (value = other) :=
  (ByteReader.reads_text maxNameLength (by decide)).tells value other

theorem tells_description {bound : Nat} (value other : Text) :
    Tells bound (text value maxDescriptionLength) (text other maxDescriptionLength)
      (value = other) :=
  (ByteReader.reads_text maxDescriptionLength (by decide)).tells value other

theorem tells_id {domain : IdDomain} {bound : Nat} (value other : StrongId domain) :
    Tells bound (id value) (id other) (value = other) :=
  ByteReader.reads_strongId.tells value other

theorem tells_generation {domain : GenerationDomain} {bound : Nat}
    (value other : Generation domain) :
    Tells bound (generation value) (generation other) (value = other) :=
  ByteReader.reads_generation.tells value other

theorem tells_speed {bound : Nat} (value other : PortSpeed) :
    Tells bound (speed value) (speed other) (value = other) :=
  ByteReader.reads_rate.tells value other

theorem tells_mtu {bound : Nat} (value other : Mtu) :
    Tells bound (mtu value) (mtu other) (value = other) := by
  refine (tells_unsigned value.lt_word other.lt_word).imp fun same => ?_
  obtain ⟨size, _⟩ := value
  obtain ⟨size', _⟩ := other
  cases same
  rfl

theorem tells_lanes {bound : Nat} (value other : LaneConfiguration) :
    Tells bound (lanes value) (lanes other) (value = other) := by
  have told : Tells bound (lanes value) (lanes other)
      (value.lanes = other.lanes ∧ value.perLane = other.perLane ∧ True) :=
    .cons (tells_unsigned value.lt_word other.lt_word) (.cons (tells_speed _ _) .nil)
  refine told.imp fun same => ?_
  obtain ⟨count, perLane, _⟩ := value
  obtain ⟨count', perLane', _⟩ := other
  obtain ⟨rfl, rfl, _⟩ := same
  rfl

/-- A list is told by the layouts of its elements, none of which is empty. -/
theorem tells_list {α : Type} {layout : α → ByteLayout} {bound : Nat} (narrow : bound ≤ 256 ^ 4)
    (tells : ∀ value other, Tells bound (layout value) (layout other) (value = other))
    (substantial : Reads.Substantial layout fun _ => True) (values others : List α) :
    Tells bound (list layout values) (list layout others) (values = others) := by
  intro front back rest left written wrote short shorter same
  have fits {values : List α} {whole : Text} (written : (list layout values).document = some whole)
      (short : whole.length < bound) : values.length < 256 ^ 4 := by
    obtain ⟨_, tail, _, ended, rfl⟩ := Layout.document_append.mp written
    have fewer := substantial.length_le (fun _ _ => trivial) ended
    rw [List.length_append] at short
    omega
  have counted : Tells bound (unsigned 4 values.length) (unsigned 4 others.length)
      (values.length = others.length) :=
    tells_unsigned (fits written short) (fits wrote shorter)
  have told : Tells bound (list layout values) (list layout others)
      (values.length = others.length ∧ values = others) :=
    counted.follow fun same => Tells.flatMap tells same
  exact told.imp And.right front back rest left written wrote short shorter same

variable {bound : Nat}

theorem tells_provenance (value other : Provenance) :
    Tells bound (provenance value) (provenance other) (value = other) := by
  refine .imp (.cons (tells_enum _ _) (.cons (tells_name _ _) (.cons (tells_id _ _)
    (.cons (tells_id _ _) (.cons (tells_generation _ _) (.cons (tells_id _ _) .nil))))))
    fun same => ?_
  cases value
  cases other
  simpa using same

theorem tells_applied (value other : AppliedEvidence) :
    Tells bound (applied value) (applied other) (value = other) := by
  refine .imp (.cons (tells_enum _ _) (.cons (tells_generation _ _)
    (.cons (tells_generation _ _) (.cons (tells_name _ _) (.cons (tells_boolean _ _) .nil)))))
    fun same => ?_
  simpa [AppliedEvidence.ext_iff] using same

theorem tells_enums {α : Type} [WireEnum α] [TellingEnum α] (narrow : bound ≤ 256 ^ 4)
    (values others : List α) :
    Tells bound (list enum values) (list enum others) (values = others) :=
  tells_list narrow tells_enum (ByteReader.substantial_unsigned (by decide)) values others

theorem tells_capabilities (narrow : bound ≤ 256 ^ 4) (value other : PortCapabilities) :
    Tells bound (capabilities value) (capabilities other) (value = other) := by
  have speeds := tells_list narrow tells_speed (ByteReader.substantial_unsigned (by decide))
    value.supportedSpeeds other.supportedSpeeds
  have lanes := tells_list narrow tells_word (ByteReader.substantial_unsigned (by decide))
    value.laneModes other.laneModes
  refine .imp (.cons (tells_enum _ _) (.cons speeds (.cons lanes (.cons (tells_word _ _)
    (.cons (tells_boolean _ _) (.cons (tells_word _ _) (.cons (tells_enums narrow _ _)
    (.cons (tells_enums narrow _ _) (.cons (tells_enums narrow _ _)
    (.cons (tells_enums narrow _ _) (.cons (tells_word _ _) (.cons (tells_word _ _)
    (.cons (tells_enum _ _) (.cons (tells_boolean _ _) (.cons (tells_word _ _)
    (.cons (tells_boolean _ _) (.cons (tells_name _ _) .nil)))))))))))))))))
    fun same => ?_
  cases value
  cases other
  simpa using same

theorem tells_capabilityBinding (narrow : bound ≤ 256 ^ 4) (value other : CapabilityBinding) :
    Tells bound (capabilityBinding value) (capabilityBinding other) (value = other) := by
  refine .imp (.cons (tells_boolean _ _) (.cons (tells_generation _ _)
    (.cons (tells_generation _ _) (.cons (tells_id _ _) (.cons (tells_name _ _)
    (.cons (tells_capabilities narrow _ _) .nil)))))) fun same => ?_
  cases value
  cases other
  dsimp only at same
  obtain ⟨rfl, rfl, rfl, rfl, rfl, rfl, _⟩ := same
  rfl

theorem tells_configuration (value other : PortConfiguration) :
    Tells bound (configuration value) (configuration other) (value = other) := by
  refine .imp (.cons (tells_id _ _) (.cons (tells_id _ _) (.cons (tells_id _ _)
    (.cons (tells_generation _ _) (.cons (tells_generation _ _) (.cons (tells_generation _ _)
    (.cons (tells_enum _ _) (.cons (tells_enum _ _) (.cons (tells_enum _ _)
    (.cons (tells_enum _ _) (.cons (tells_speed _ _) (.cons (tells_enum _ _)
    (.cons (tells_mtu _ _) (.cons (tells_lanes _ _) (.cons (tells_enum _ _)
    (.cons (tells_enum _ _) (.cons (tells_enum _ _) (.cons (tells_enum _ _)
    (.cons (tells_boolean _ _) (.cons (tells_id _ _) (.cons (tells_generation _ _)
    (.cons (tells_boolean _ _) (.cons (tells_boolean _ _) (.cons (tells_id _ _)
    (.cons (tells_generation _ _) (.cons (tells_name _ _) (.cons (tells_id _ _)
    (.cons (tells_id _ _) (.cons (tells_word _ _) (.cons (tells_provenance _ _)
    (.cons (tells_generation _ _) (.cons (tells_generation _ _)
    .nil)))))))))))))))))))))))))))))))) fun same => ?_
  simp only [PortConfiguration.ext_iff, SpeedSetting.ext_iff, AggregationMembership.ext_iff,
    ProfileBinding.ext_iff, and_assoc]
  simpa only [and_true] using same

theorem tells_mutation (narrow : bound ≤ 256 ^ 4) (value other : PortMutationMessage) :
    Tells bound (mutation value) (mutation other) (value = other) := by
  have byte (value other : UInt8) : Tells bound (unsigned 1 value.toNat)
      (unsigned 1 other.toNat) (value = other) := ByteReader.reads_u8.tells value other
  have configurations := Tells.optional tells_boolean (@tells_configuration bound)
  refine .imp (.cons (byte _ _) (.cons (ByteReader.reads_authority.tells _ _)
    (.cons (tells_id _ _) (.cons (tells_id _ _) (.cons (tells_generation _ _)
    (.cons (configurations _ _) (.cons (byte _ _) (.cons (tells_id _ _)
    (.cons (tells_generation _ _) (.cons (tells_boolean _ _)
    (.cons (tells_capabilityBinding narrow _ _) (.cons (tells_description _ _)
    (.cons (byte _ _) (.cons (tells_id _ _) (.cons (tells_boolean _ _)
    (.cons (tells_applied _ _) (.cons (byte _ _) (.cons (byte _ _)
    (.cons (tells_name _ _) .nil))))))))))))))))))) fun same => ?_
  cases value
  cases other
  simpa using same

theorem tells_outcome (narrow : bound ≤ 256 ^ 4) (value other : ReceivedOutcome) :
    Tells bound (outcome value) (outcome other) (value = other) := by
  have code : Tells bound (unsigned 1 value.code.toNat) (unsigned 1 other.code.toNat)
      (value.code = other.code) := ByteReader.reads_u8.tells _ _
  have tells (value other : Text × Text) :
      Tells bound (detail value) (detail other) (value = other) := by
    refine .imp (.cons (tells_name _ _) (.cons (tells_description _ _) .nil)) fun same => ?_
    exact Prod.ext same.1 same.2.1
  have substantial : Reads.Substantial detail fun _ => True :=
    ByteReader.substantial_text.append
  refine .imp (.cons code (.cons (tells_description _ _)
    (.cons (tells_list narrow tells substantial _ _) .nil))) fun same => ?_
  cases value
  cases other
  simpa using same

end ByteLayout

/-! ## Payloads -/

/-- A payload is the payload of one mutation message, whether it can be decoded or not. -/
theorem decodeMutation_of_encoded {message received : PortMutationMessage} {payload : Text}
    (encoded : encodeMutation message = .ok payload)
    (decoded : decodeMutation payload = .ok received) : received = message := by
  obtain ⟨written, fits⟩ := encodeMutation_eq_ok.mp encoded
  have wrote := (decodeMutation_eq_ok.mp decoded).2
  have short : payload.length < maxFrameBytes + 1 := Nat.lt_succ_of_le fits
  exact (ByteLayout.tells_mutation (by decide) received message payload payload [] [] wrote written
    short short rfl).1

section Outcomes

theorem foldl_withDetail_code (details : List (Text × Text)) (outcome : ReceivedOutcome) :
    (details.foldl ReceivedOutcome.withDetail outcome).code = outcome.code := by
  induction details generalizing outcome with
  | nil => rfl
  | cons detail details ih =>
      rw [List.foldl_cons, ih, ReceivedOutcome.withDetail]
      split <;> rfl

/-- The normal form keeps the code. -/
theorem Outcome.normalised_code (outcome : Outcome) :
    outcome.received.normalised.code = UInt8.ofNat outcome.code.byte :=
  foldl_withDetail_code outcome.details _

/-- An encoded outcome that can be decoded is read as its normal form. -/
theorem decodeOutcome_of_encoded {outcome : Outcome} {received : ReceivedOutcome} {payload : Text}
    (encoded : encodeOutcome outcome = .ok payload)
    (decoded : decodeOutcome payload = .ok received) :
    received = outcome.received.normalised := by
  obtain ⟨written, fits⟩ := encodeOutcome_eq_ok.mp encoded
  obtain ⟨fields, _, rfl, document, rest, wrote, split⟩ := decodeOutcome_eq_ok.mp decoded
  have short : payload.length < maxFrameBytes + 1 := Nat.lt_succ_of_le fits
  have shorter : document.length < maxFrameBytes + 1 := by
    rw [split, List.length_append] at short
    omega
  have same := (ByteLayout.tells_outcome (by decide) fields outcome.received document payload
    rest [] wrote written shorter short (by rw [List.append_nil, split])).1
  rw [same]

end Outcomes

end PortFabric
