import PortFabric.IdentifierProperties
import PortFabric.WireProperties

/-!
# Survival

When a record survives being written and read back: it is readable, and the
texts its validation leaves alone fit their fields.
-/

set_option autoImplicit false

namespace PortFabric

open Formats

namespace ByteLayout

open Layout

@[simp] theorem whole_unsigned {width value : Nat} : Whole (unsigned width value) := by
  simp [Whole, unsigned]

@[simp] theorem whole_boolean {value : Bool} : Whole (boolean value) := whole_unsigned

@[simp] theorem whole_generation {domain : GenerationDomain} {value : Generation domain} :
    Whole (generation value) := whole_unsigned

@[simp] theorem whole_enum {α : Type} [WireEnum α] {value : α} : Whole (enum value) :=
  whole_unsigned

@[simp] theorem whole_text {value : Text} {bound : Nat} :
    Whole (text value bound) ↔ value.length ≤ bound := by
  rw [text]
  split
  · next beyond => simp [Whole, beyond]
  · next within => simp [Whole, Nat.not_lt.mp within]

/-- Every identifier fits its field. -/
@[simp] theorem whole_id {domain : IdDomain} {value : StrongId domain} : Whole (id value) := by
  rw [id, whole_text]
  rcases value.wellFormed with empty | accepted
  · simp [empty]
  · exact (validateIdentifier_eq_ok.mp accepted).bounded

@[simp] theorem whole_list {α : Type} {layout : α → ByteLayout} {values : List α} :
    Whole (list layout values) ↔ ∀ value ∈ values, Whole (layout value) := by
  simp [list]

@[simp] theorem whole_optional {α : Type} {layout : α → ByteLayout} {value : Option α} :
    Whole (optional layout value) ↔ ∀ carried, value = some carried → Whole (layout carried) := by
  cases value <;> simp [optional]

@[simp] theorem whole_provenance {value : Provenance} :
    Whole (provenance value) ↔ value.source.length ≤ maxNameLength := by
  simp [provenance]

@[simp] theorem whole_capabilities {value : PortCapabilities} :
    Whole (capabilities value) ↔ value.transceiverClass.length ≤ maxNameLength := by
  simp [capabilities, speed, word]

@[simp] theorem whole_capabilityBinding {value : CapabilityBinding} :
    Whole (capabilityBinding value) ↔ value.source.length ≤ maxNameLength ∧
      value.capabilities.transceiverClass.length ≤ maxNameLength := by
  simp [capabilityBinding]

@[simp] theorem whole_configuration {value : PortConfiguration} :
    Whole (configuration value) ↔ value.role.length ≤ maxNameLength ∧
      value.provenance.source.length ≤ maxNameLength := by
  simp [configuration, speed, mtu, lanes, word]

@[simp] theorem whole_ownership {value : PortOwnership} : Whole (ownership value) := by
  simp [ownership]

@[simp] theorem whole_authority {value : AuthorityContext} : Whole (authority value) := by
  simp [authority]

@[simp] theorem whole_applied {value : AppliedEvidence} :
    Whole (applied value) ↔ value.source.length ≤ maxNameLength := by
  simp [applied]

@[simp] theorem whole_generations {value : GenerationVector} : Whole (generations value) := by
  simp [generations]

@[simp] theorem size_unsigned {width value : Nat} : size (unsigned width value) = width := by
  simp [size, unsigned, length_littleEndian]

@[simp] theorem size_generation {domain : GenerationDomain} {value : Generation domain} :
    size (generation value) = 8 := size_unsigned

theorem size_text {value : Text} {bound : Nat} (fits : value.length ≤ bound) :
    size (text value bound) = 4 + value.length := by
  rw [text, if_neg (Nat.not_lt.mpr fits)]
  simp [size, length_littleEndian]

theorem size_id {domain : IdDomain} {value : StrongId domain} :
    size (id value) = 4 + value.value.length := by
  rw [id, size_text]
  exact whole_text.mp whole_id

@[simp] theorem size_list {α : Type} {layout : α → ByteLayout} {values : List α} :
    size (list layout values) = 4 + size (values.flatMap layout) := by
  rw [list, size_append, size_unsigned]

theorem size_record {value : PortRecord} : 4 ≤ size (record value) := by
  rw [record, List.flatten_cons, size_append, size_id]
  omega

theorem size_device {value : DeviceBinding} : 4 ≤ size (device value) := by
  rw [device, List.flatten_cons, size_append, size_id]
  omega

theorem size_profile {value : PortProfile} (whole : (profile value).Whole) :
    16 ≤ size (profile value) := by
  simp only [profile, List.flatten_cons, whole_append, whole_text] at whole
  simp only [profile, List.flatten_cons, size_append, size_id, size_generation,
    size_text whole.2.2.1]
  omega

end ByteLayout

/-- The texts of the record that its validation does not look at fit their fields. -/
structure PortRecord.TextsFit (record : PortRecord) : Prop where
  source : record.provenance.source.length ≤ maxNameLength
  configured : ∀ configuration, record.configuration = some configuration →
    configuration.provenance.source.length ≤ maxNameLength
  evidence : record.capability.source.length ≤ maxNameLength
  applied : record.applied.source.length ≤ maxNameLength

/-- The record is written as a whole, and what is written is read back as the same record. -/
def PortRecord.Survives (record : PortRecord) : Prop :=
  ∃ limit, (({ limit } : ByteWriter).writeRecord record).ok = true ∧
    ByteReader.readRecord.run (({ limit } : ByteWriter).writeRecord record).out =
      .ok (record, [])

theorem validateText_length {value : Text} {bound : Nat}
    (accepted : validateText value bound = .ok ()) : value.length ≤ bound := by
  unfold validateText at accepted
  split at accepted
  · cases accepted
  · next within => exact Nat.not_lt.mp within

theorem PortCapabilities.transceiverClass_fits {capabilities : PortCapabilities}
    (valid : capabilities.validate = .ok ()) :
    capabilities.transceiverClass.length ≤ maxNameLength := by
  simp only [validate, Checks.require_eq_ok, Checks.refuseIf_eq_ok, Checks.within_eq_ok] at valid
  exact validateText_length valid.2.2.2.2.2.2.2.2.2.2.2.2.2.2.2.2.2.2.2.1

theorem PortConfiguration.role_fits {configuration : PortConfiguration}
    (valid : configuration.validate = .ok ()) : configuration.role.length ≤ maxNameLength := by
  simp only [validate, Checks.require_eq_ok, Checks.within_eq_ok] at valid
  exact validateText_length valid.2.2.2.2.2.2.2.2.2.2.2.2.2.2.2.2.2.2.2.1

namespace PortRecord

variable {record : PortRecord}

theorem validate_configuration {configuration : PortConfiguration}
    (valid : record.validate = .ok ()) (carried : record.configuration = some configuration) :
    configuration.validate = .ok () := by
  simp only [validate, Checks.require_eq_ok, Checks.within_eq_ok] at valid
  obtain ⟨_, _, _, _, _, _, _, consistent, _⟩ := valid
  rw [validateConfiguration, carried] at consistent
  simp only [Checks.within_eq_ok] at consistent
  exact consistent.1

theorem whole_iff (readable : record.Readable) :
    (ByteLayout.record record).Whole ↔ record.TextsFit := by
  have valid := readable.consistent
  have roles : ∀ configuration, record.configuration = some configuration →
      configuration.role.length ≤ maxNameLength :=
    fun _ carried => PortConfiguration.role_fits (validate_configuration valid carried)
  have transceiver := PortCapabilities.transceiverClass_fits readable.capabilities
  simp only [validate, Checks.require_eq_ok, Checks.within_eq_ok] at valid
  obtain ⟨_, _, _, _, _, _, _, _, reason, detail, _⟩ := valid
  have named := validateText_length reason
  have told := validateText_length detail
  simp only [ByteLayout.record, List.flatten_cons, List.flatten_nil, Layout.whole_append,
    Layout.whole_nil, ByteLayout.whole_id, ByteLayout.whole_enum, ByteLayout.whole_optional,
    ByteLayout.whole_configuration, ByteLayout.whole_ownership,
    ByteLayout.whole_capabilityBinding, ByteLayout.whole_generation, ByteLayout.whole_text,
    ByteLayout.whole_boolean, ByteLayout.whole_generations, ByteLayout.whole_provenance,
    ByteLayout.whole_unsigned, true_and, and_true]
  constructor
  · intro given
    rcases given with ⟨configured, _, ⟨evidence, _⟩, applied, source, _⟩
    exact ⟨source, fun _ carried => (configured _ carried).2, evidence, applied⟩
  · intro fit
    exact ⟨fun _ carried => ⟨roles _ carried, fit.configured _ carried⟩, fun _ _ => trivial,
      ⟨fit.evidence, transceiver⟩, fit.applied, fit.source, named, told⟩

theorem survives_iff : record.Survives ↔ record.Readable ∧ record.TextsFit := by
  have reads := ByteReader.reads_record
  constructor
  · intro given
    rcases given with ⟨limit, written, read⟩
    have start : ({ limit } : ByteWriter).Sound := ⟨rfl, Nat.zero_le _⟩
    rw [ByteWriter.writeRecord_eq_emit] at written
    obtain ⟨document, whole, _⟩ := start.emit_ok_iff.mp written
    obtain ⟨_, readable, _⟩ := (reads _ _ _).mp read
    exact ⟨readable, (whole_iff readable).mp (Layout.whole_iff.mpr ⟨document, whole⟩)⟩
  · intro given
    rcases given with ⟨readable, fit⟩
    obtain ⟨document, whole⟩ := Layout.whole_iff.mp ((whole_iff readable).mpr fit)
    have start : ({ limit := document.length } : ByteWriter).Sound := ⟨rfl, Nat.zero_le _⟩
    have fits : 0 + document.length ≤ document.length := Nat.le_of_eq (Nat.zero_add _)
    refine ⟨document.length, ?_, ?_⟩
    · rw [ByteWriter.writeRecord_eq_emit]
      exact start.emit_ok_iff.mpr ⟨document, whole, fits⟩
    · rw [ByteWriter.writeRecord_eq_emit, start.emit_eq whole fits]
      exact (reads _ _ _).mpr ⟨trivial, readable, document, whole, (List.append_nil _).symm⟩

end PortRecord

end PortFabric
