import Mathlib.Data.List.Nodup
import PortFabric.Library.Delimited
import PortFabric.Record

/-!
# Properties of renderings

Which bytes a rendering leaves free to separate it from the next one, and what
a reader gets back from it.
-/

set_option autoImplicit false

namespace PortFabric

/-- Identifier bytes only, so the text is free of every separator. -/
def Plain (value : Text) : Prop :=
  ∀ byte ∈ value, isInterior byte = true

instance (value : Text) : Decidable (Plain value) :=
  List.decidableBAll _ value

namespace Plain

@[simp] theorem nil : Plain [] := List.forall_mem_nil _

@[simp] theorem append_iff {first second : Text} :
    Plain (first ++ second) ↔ Plain first ∧ Plain second := List.forall_mem_append

theorem not_mem {value : Text} (plain : Plain value) {byte : UInt8}
    (separates : isInterior byte = false) : byte ∉ value := by
  intro member
  rw [plain byte member] at separates
  cases separates

end Plain

section Identifiers

variable {domain : IdDomain}

@[simp] theorem StrongId.plain (id : StrongId domain) : Plain id.value := by
  rcases id.wellFormed with empty | accepted
  · rw [empty]
    exact Plain.nil
  · unfold validateIdentifier at accepted
    split at accepted
    · repeat' split at accepted
      any_goals cases accepted
      exact List.all_eq_true.mp ‹_›
    · cases accepted

@[simp] theorem StrongId.value_inj {first second : StrongId domain} :
    first.value = second.value ↔ first = second :=
  ⟨StrongId.ext, congrArg _⟩

end Identifiers

section Numbers

theorem isDecimal_of_isDigit {digit : Char} (decimal : digit.isDigit = true) :
    isDecimal (UInt8.ofNat digit.toNat) = true ∧
      Char.ofNat (UInt8.ofNat digit.toNat).toNat = digit := by
  simp only [Char.isDigit, Bool.and_eq_true, decide_eq_true_eq] at decimal
  have lower : 48 ≤ digit.toNat := decimal.1
  have upper : digit.toNat ≤ 57 := decimal.2
  have kept : (UInt8.ofNat digit.toNat).toNat = digit.toNat := by
    rw [UInt8.toNat_ofNat']
    omega
  refine ⟨?_, ?_⟩
  · simp only [isDecimal, Bool.and_eq_true, decide_eq_true_eq, ge_iff_le, UInt8.le_iff_toNat_le,
      kept]
    exact ⟨lower, upper⟩
  · rw [kept, Char.ofNat_toNat]

theorem isDecimal_of_mem {value : Nat} {byte : UInt8} (member : byte ∈ formatU64 value) :
    isDecimal byte = true := by
  obtain ⟨digit, rendered, rfl⟩ := List.mem_map.mp member
  exact (isDecimal_of_isDigit (Nat.isDigit_of_mem_toDigits (by decide) (by decide) rendered)).1

@[simp] theorem plain_formatU64 (value : Nat) : Plain (formatU64 value) := by
  intro byte member
  have decimal := isDecimal_of_mem member
  simp only [isDecimal] at decimal
  simp only [isInterior, isAlphanumeric, decimal, Bool.true_or]

theorem formatU64_ne_nil (value : Nat) : formatU64 value ≠ [] := by
  simp [formatU64, Nat.toDigits_ne_nil]

theorem map_formatU64 (value : Nat) :
    (formatU64 value).map (fun byte => Char.ofNat byte.toNat) = Nat.toDigits 10 value := by
  rw [formatU64, List.map_map]
  conv_rhs => rw [← List.map_id (Nat.toDigits 10 value)]
  apply List.map_congr_left
  intro digit rendered
  exact (isDecimal_of_isDigit
    (Nat.isDigit_of_mem_toDigits (by decide) (by decide) rendered)).2

theorem formatU64_injective : Function.Injective formatU64 := by
  intro first second same
  have digits : Nat.toDigits 10 first = Nat.toDigits 10 second := by
    rw [← map_formatU64 first, ← map_formatU64 second, same]
  calc first = Nat.ofDigitChars 10 (Nat.toDigits 10 first) 0 :=
        Nat.ofDigitChars_ten_toDigits.symm
    _ = Nat.ofDigitChars 10 (Nat.toDigits 10 second) 0 := by rw [digits]
    _ = second := Nat.ofDigitChars_ten_toDigits

@[simp] theorem formatU64_inj {first second : Nat} :
    formatU64 first = formatU64 second ↔ first = second := formatU64_injective.eq_iff

theorem formatU64_append_inj {first second : Nat} {back rest : Text}
    (backFree : ∀ byte, back.head? = some byte → isDecimal byte = false)
    (restFree : ∀ byte, rest.head? = some byte → isDecimal byte = false)
    (same : formatU64 first ++ back = formatU64 second ++ rest) : first = second ∧ back = rest := by
  have cut (value : Nat) {tail : Text}
      (free : ∀ byte, tail.head? = some byte → isDecimal byte = false) :
      (formatU64 value ++ tail).takeWhile isDecimal = formatU64 value := by
    rw [List.takeWhile_append_of_pos fun _ member => isDecimal_of_mem member]
    cases tail with
    | nil => exact List.append_nil _
    | cons byte others => simp [free byte rfl]
  have digits : formatU64 first = formatU64 second := by
    rw [← cut first backFree, same, cut second restFree]
  rw [digits] at same
  exact ⟨formatU64_injective digits, List.append_cancel_left same⟩

theorem formatU64_append_ne {value : Nat} {back rest : Text} {byte : UInt8}
    (free : isDecimal byte = false) : formatU64 value ++ back ≠ byte :: rest := by
  intro same
  cases digits : formatU64 value with
  | nil => exact formatU64_ne_nil _ digits
  | cons digit others =>
      have decimal : isDecimal digit = true := by
        apply isDecimal_of_mem
        rw [digits]
        exact List.mem_cons_self
      rw [digits] at same
      rw [(List.cons.inj same).1, free] at decimal
      cases decimal

theorem formatU64_ne {value : Nat} {rest : Text} {byte : UInt8} (free : isDecimal byte = false) :
    formatU64 value ≠ byte :: rest := by
  rw [← List.append_nil (formatU64 value)]
  exact formatU64_append_ne free

@[simp] theorem plain_formatBool (value : Bool) : Plain (formatBool value) := by
  cases value <;> decide

@[simp] theorem formatBool_inj {first second : Bool} :
    formatBool first = formatBool second ↔ first = second := by
  cases first <;> cases second <;> decide

end Numbers

namespace Generation

variable {domain : GenerationDomain}

@[simp] theorem plain_format (generation : Generation domain) : Plain generation.format :=
  plain_formatU64 _

@[simp] theorem format_inj {first second : Generation domain} :
    first.format = second.format ↔ first = second :=
  ⟨fun same => ext (formatU64_injective same), congrArg _⟩

@[simp] theorem plain_formatOrEmpty (generation : Generation domain) :
    Plain generation.formatOrEmpty := by
  unfold formatOrEmpty
  split <;> simp

@[simp] theorem formatOrEmpty_inj {first second : Generation domain} :
    first.formatOrEmpty = second.formatOrEmpty ↔ first = second := by
  refine ⟨fun same => ?_, congrArg _⟩
  unfold formatOrEmpty at same
  split at same <;> split at same
  · exact format_inj.mp same
  · exact absurd same (formatU64_ne_nil _)
  · exact absurd same.symm (formatU64_ne_nil _)
  · next firstNull secondNull =>
      rw [eq_null_of_not_valid (Bool.eq_false_iff.mpr firstNull),
        eq_null_of_not_valid (Bool.eq_false_iff.mpr secondNull)]

end Generation

section Enumerations

@[simp] theorem AdministrativeState.plain_toText (state : AdministrativeState) :
    Plain state.toText := by
  cases state <;> simp only [toText] <;> decide

@[simp] theorem PortMode.plain_toText (mode : PortMode) : Plain mode.toText := by
  cases mode <;> simp only [toText] <;> decide

@[simp] theorem ProtocolFamily.plain_toText (family : ProtocolFamily) : Plain family.toText := by
  cases family <;> simp only [toText] <;> decide

@[simp] theorem FecMode.plain_toText (mode : FecMode) : Plain mode.toText := by
  cases mode <;> simp only [toText] <;> decide

@[simp] theorem DuplexMode.plain_toText (mode : DuplexMode) : Plain mode.toText := by
  cases mode <;> simp only [toText] <;> decide

@[simp] theorem AutonegPolicy.plain_toText (policy : AutonegPolicy) : Plain policy.toText := by
  cases policy <;> simp only [toText] <;> decide

@[simp] theorem PauseMode.plain_toText (mode : PauseMode) : Plain mode.toText := by
  cases mode <;> simp only [toText] <;> decide

@[simp] theorem BreakoutMode.plain_toText (mode : BreakoutMode) : Plain mode.toText := by
  cases mode <;> simp only [toText] <;> decide

@[simp] theorem SpeedSelection.plain_toText (selection : SpeedSelection) :
    Plain selection.toText := by
  cases selection <;> simp only [toText] <;> decide

@[simp] theorem ProvenanceKind.plain_toText (kind : ProvenanceKind) : Plain kind.toText := by
  cases kind <;> simp only [toText] <;> decide

@[simp] theorem CapabilityCertainty.plain_toText (certainty : CapabilityCertainty) :
    Plain certainty.toText := by
  cases certainty <;> simp only [toText] <;> decide

@[simp] theorem AppliedOutcome.plain_toText (outcome : AppliedOutcome) : Plain outcome.toText := by
  cases outcome <;> simp only [toText] <;> decide

@[simp] theorem DriftState.plain_toText (drift : DriftState) : Plain drift.toText := by
  cases drift <;> simp only [toText] <;> decide

@[simp] theorem PortOwnerKind.plain_toText (kind : PortOwnerKind) : Plain kind.toText := by
  cases kind <;> simp only [toText] <;> decide

/-- Legal values are told apart by renderings that differ on each two of them. -/
private theorem legal_inj {α : Type} {isValid : α → Bool} {render : α → Text} (legal : List α)
    (listed : ∀ value, isValid value = true → value ∈ legal) (apart : (legal.map render).Nodup)
    {first second : α} (valid : isValid first = true) (valid' : isValid second = true) :
    render first = render second ↔ first = second :=
  ⟨fun same => List.inj_on_of_nodup_map apart (listed _ valid) (listed _ valid') same,
    congrArg _⟩

theorem AdministrativeState.toText_legal_inj {first second : AdministrativeState}
    (legal : first.isValid = true) (legal' : second.isValid = true) :
    first.toText = second.toText ↔ first = second :=
  legal_inj [.unknown, .enabled, .disabled, .draining, .maintenance, .revalidationRequired]
    (fun value legal => by cases value <;> first | decide | cases legal) (by decide) legal legal'

theorem PortMode.toText_legal_inj {first second : PortMode}
    (legal : first.isValid = true) (legal' : second.isValid = true) :
    first.toText = second.toText ↔ first = second :=
  legal_inj [.physical, .logical]
    (fun value legal => by cases value <;> first | decide | cases legal) (by decide) legal legal'

theorem ProtocolFamily.toText_legal_inj {first second : ProtocolFamily}
    (legal : first.isValid = true) (legal' : second.isValid = true) :
    first.toText = second.toText ↔ first = second :=
  legal_inj
    [.unknown, .ethernet, .infiniBand, .fibreChannel, .opticalTransport, .overlay, .synthetic]
    (fun value legal => by cases value <;> first | decide | cases legal) (by decide) legal legal'

theorem FecMode.toText_legal_inj {first second : FecMode}
    (legal : first.isValid = true) (legal' : second.isValid = true) :
    first.toText = second.toText ↔ first = second :=
  legal_inj
    [.unknown, .unsupported, .none, .firecode, .reedSolomon528, .reedSolomon544,
      .reedSolomon544Interleaved, .reedSolomon272Interleaved]
    (fun value legal => by cases value <;> first | decide | cases legal) (by decide) legal legal'

theorem DuplexMode.toText_legal_inj {first second : DuplexMode}
    (legal : first.isValid = true) (legal' : second.isValid = true) :
    first.toText = second.toText ↔ first = second :=
  legal_inj [.unknown, .unsupported, .half, .full]
    (fun value legal => by cases value <;> first | decide | cases legal) (by decide) legal legal'

theorem AutonegPolicy.toText_legal_inj {first second : AutonegPolicy}
    (legal : first.isValid = true) (legal' : second.isValid = true) :
    first.toText = second.toText ↔ first = second :=
  legal_inj [.unknown, .unsupported, .forced, .preferred, .negotiated]
    (fun value legal => by cases value <;> first | decide | cases legal) (by decide) legal legal'

theorem PauseMode.toText_legal_inj {first second : PauseMode}
    (legal : first.isValid = true) (legal' : second.isValid = true) :
    first.toText = second.toText ↔ first = second :=
  legal_inj [.unknown, .unsupported, .disabled, .transmit, .receive, .bidirectional]
    (fun value legal => by cases value <;> first | decide | cases legal) (by decide) legal legal'

theorem BreakoutMode.toText_legal_inj {first second : BreakoutMode}
    (legal : first.isValid = true) (legal' : second.isValid = true) :
    first.toText = second.toText ↔ first = second :=
  legal_inj [.none, .x2, .x4, .x8]
    (fun value legal => by cases value <;> first | decide | cases legal) (by decide) legal legal'

theorem SpeedSelection.toText_legal_inj {first second : SpeedSelection}
    (legal : first.isValid = true) (legal' : second.isValid = true) :
    first.toText = second.toText ↔ first = second :=
  legal_inj [.auto, .forced]
    (fun value legal => by cases value <;> first | decide | cases legal) (by decide) legal legal'

theorem ProvenanceKind.toText_legal_inj {first second : ProvenanceKind}
    (legal : first.isValid = true) (legal' : second.isValid = true) :
    first.toText = second.toText ↔ first = second :=
  legal_inj
    [.unknown, .operator, .networkController, .switchAgent, .hostAgent, .delegatedSubsystem,
      .syntheticBackend, .hostAdapter, .recovery, .reconciliation]
    (fun value legal => by cases value <;> first | decide | cases legal) (by decide) legal legal'

theorem AdministrativeOp.toText_inj {op other : AdministrativeOp} (legal : op.isValid = true) :
    op.toText = other.toText ↔ op = other := by
  refine ⟨fun same => ?_, congrArg _⟩
  cases op with
  | illegal raw => cases legal
  | _ =>
      cases other <;> first
        | rfl
        | exact absurd same (by simp only [toText]; decide)

theorem PortOwnerKind.toText_inj {kind other : PortOwnerKind} (legal : kind.isValid = true)
    (named : kind ≠ .unknown) : kind.toText = other.toText ↔ kind = other := by
  refine ⟨fun same => ?_, congrArg _⟩
  cases kind with
  | unknown => exact absurd rfl named
  | illegal raw => cases legal
  | _ =>
      cases other <;> first
        | rfl
        | exact absurd same (by simp only [toText]; decide)

end Enumerations

namespace PortSpeed

/-- The rate in thousandths that fraction digits stand for. -/
def fractionValue (digits : Text) : Nat :=
  Nat.ofDigitChars 10 (digits.map fun byte => Char.ofNat byte.toNat) 0 * 10 ^ (3 - digits.length)

theorem trimFraction_spec {places remainder : Nat} (small : remainder < 10 ^ (places + 1)) :
    (trimFraction places remainder).1 ≤ places ∧
      (trimFraction places remainder).2 < 10 ^ ((trimFraction places remainder).1 + 1) ∧
      (trimFraction places remainder).2 * 10 ^ (places - (trimFraction places remainder).1) =
        remainder := by
  induction places generalizing remainder with
  | zero => exact ⟨Nat.le_refl _, small, Nat.mul_one _⟩
  | succ places ih =>
      unfold trimFraction
      split
      · next trailing =>
          have shorter : remainder / 10 < 10 ^ (places + 1) := by
            rw [Nat.pow_succ] at small
            omega
          obtain ⟨fits, below, restored⟩ := ih shorter
          refine ⟨Nat.le_succ_of_le fits, below, ?_⟩
          rw [Nat.succ_sub fits, Nat.pow_succ, ← Nat.mul_assoc, restored]
          omega
      · exact ⟨Nat.le_refl _, small, by simp⟩

theorem padFraction_spec {places remainder : Nat} (small : remainder < 10 ^ (places + 1)) :
    (padFraction places remainder ++ formatU64 remainder).length = places + 1 ∧
      Nat.ofDigitChars 10
        ((padFraction places remainder ++ formatU64 remainder).map
          fun byte => Char.ofNat byte.toNat) 0 = remainder := by
  have short {digits : Nat} (fits : remainder < 10 ^ (digits + 1)) :
      (formatU64 remainder).length ≤ digits + 1 := by
    rw [formatU64, List.length_map]
    exact (Nat.length_toDigits_le_iff (by decide) (Nat.succ_pos _)).mpr fits
  have read : Nat.ofDigitChars 10 ((formatU64 remainder).map fun byte => Char.ofNat byte.toNat) 0 =
      remainder := by
    rw [map_formatU64, Nat.ofDigitChars_ten_toDigits]
  induction places with
  | zero =>
      have nonempty := List.length_pos_iff.mpr (formatU64_ne_nil remainder)
      have single := short small
      exact ⟨by simp only [padFraction, List.nil_append]; omega, read⟩
  | succ places ih =>
      unfold padFraction
      split
      · next fits =>
          obtain ⟨length, value⟩ := ih fits
          refine ⟨?_, ?_⟩
          · rw [List.append_assoc, List.length_append, length]
            exact Nat.add_comm ..
          · rw [List.append_assoc, List.map_append]
            exact value
      · next long =>
          refine ⟨?_, read⟩
          have fits := short small
          have exceeds : ¬(formatU64 remainder).length ≤ places + 1 := by
            rw [formatU64, List.length_map]
            exact mt (Nat.length_toDigits_le_iff (by decide) (Nat.succ_pos _)).mp long
          rw [List.nil_append]
          omega

/-- A fraction is read back from its digits. -/
theorem fractionValue_fractionDigits {remainder : Nat} (small : remainder < 1000) :
    fractionValue (fractionDigits remainder) = remainder := by
  have places : remainder < 10 ^ (2 + 1) := small
  obtain ⟨_, below, restored⟩ := trimFraction_spec places
  obtain ⟨length, value⟩ := padFraction_spec below
  rw [fractionValue, fractionDigits, value, length, Nat.add_sub_add_right 2 1]
  exact restored

/-- The rate that a count of units stands for. -/
def readRate (count : Nat) : Text → Nat
  | [] => count
  | byte :: rest =>
      if byte = 0x2e then count * 1000000000 + fractionValue rest.dropLast * 1000000
      else if byte = 0x47 then count * 1000000000
      else if byte = 0x4d then count * 1000000
      else count * 1000

/-- A rate is rendered as a count and the text of its unit, which give it back. -/
theorem toText_eq {speed : PortSpeed} (valid : speed.valid = true) :
    ∃ count unit, speed.toText = formatU64 count ++ unit ∧
      (∀ byte, unit.head? = some byte → isDecimal byte = false) ∧
      readRate count unit = speed.bitsPerSecond := by
  have led {byte : UInt8} {rest : Text} (free : isDecimal byte = false) :
      ∀ other, (byte :: rest).head? = some other → isDecimal other = false := by
    intro other same
    cases Option.some.inj same
    exact free
  simp only [toText, valid, Bool.not_true, Bool.false_eq_true, if_false]
  split
  · exact ⟨_, _, rfl, led (by decide), Nat.div_mul_cancel (Nat.dvd_of_mod_eq_zero ‹_›)⟩
  split
  · generalize taken : speed.bitsPerSecond % 1000000000 / 1000000 = remainder
    refine ⟨_, text "." ++ (fractionDigits remainder ++ text "G"),
      by rw [List.append_assoc, List.append_assoc], @led 0x2e _ (by decide), ?_⟩
    have small : remainder < 1000 := by omega
    have digits : (fractionDigits remainder ++ text "G").dropLast = fractionDigits remainder :=
      List.dropLast_concat
    calc readRate (speed.bitsPerSecond / 1000000000)
            (text "." ++ (fractionDigits remainder ++ text "G"))
        = speed.bitsPerSecond / 1000000000 * 1000000000 +
            fractionValue (fractionDigits remainder ++ text "G").dropLast * 1000000 := rfl
      _ = speed.bitsPerSecond / 1000000000 * 1000000000 + remainder * 1000000 := by
          rw [digits, fractionValue_fractionDigits small]
      _ = speed.bitsPerSecond := by omega
  split
  · exact ⟨_, _, rfl, led (by decide), Nat.div_mul_cancel (Nat.dvd_of_mod_eq_zero ‹_›)⟩
  split
  · exact ⟨_, _, rfl, led (by decide), Nat.div_mul_cancel (Nat.dvd_of_mod_eq_zero ‹_›)⟩
  · exact ⟨_, _, (List.append_nil _).symm, by simp, rfl⟩

theorem toText_of_not_valid {speed : PortSpeed} (invalid : speed.valid = false) :
    speed.toText = text "UNSPECIFIED" := by
  simp [toText, invalid]

theorem eq_unspecified {speed : PortSpeed} (invalid : speed.valid = false) :
    speed = unspecified := by
  cases speed with
  | mk bits _ =>
      have zero : bits = 0 := by simpa [valid] using invalid
      cases zero
      rfl

theorem toText_ne {byte : UInt8} {rest : Text} (free : isDecimal byte = false)
    (other : byte ≠ 0x55) (speed : PortSpeed) : speed.toText ≠ byte :: rest := by
  cases valid : speed.valid with
  | false =>
      rw [toText_of_not_valid valid]
      exact fun same => other (List.cons.inj same).1.symm
  | true =>
      obtain ⟨count, unit, rendered, _⟩ := toText_eq valid
      rw [rendered]
      exact formatU64_append_ne free

theorem toText_ne_unspecified {speed : PortSpeed} (valid : speed.valid = true) :
    speed.toText ≠ text "UNSPECIFIED" := by
  obtain ⟨count, unit, rendered, _⟩ := toText_eq valid
  rw [rendered]
  exact formatU64_append_ne (by decide)

theorem toText_injective : Function.Injective toText := by
  intro first second same
  cases firstValid : first.valid <;> cases secondValid : second.valid
  · rw [eq_unspecified firstValid, eq_unspecified secondValid]
  · exact absurd (same.symm.trans (toText_of_not_valid firstValid))
      (toText_ne_unspecified secondValid)
  · exact absurd (same.trans (toText_of_not_valid secondValid)) (toText_ne_unspecified firstValid)
  · obtain ⟨count, unit, rendered, free, bits⟩ := toText_eq firstValid
    obtain ⟨count', unit', rendered', free', bits'⟩ := toText_eq secondValid
    rw [rendered, rendered'] at same
    obtain ⟨rfl, rfl⟩ := formatU64_append_inj free free' same
    cases first
    cases second
    simp only [mk.injEq]
    exact bits.symm.trans bits'

@[simp] theorem plain_toText (speed : PortSpeed) : Plain speed.toText := by
  unfold toText
  have fraction (places remainder : Nat) : Plain (padFraction places remainder) := by
    induction places with
    | zero => exact Plain.nil
    | succ places ih =>
        unfold padFraction
        split
        · rw [Plain.append_iff]
          exact ⟨by decide, ih⟩
        · exact Plain.nil
  dsimp only
  split
  · decide
  · repeat' split
    all_goals simp [fractionDigits, fraction] <;> decide

theorem toText_ne_nil (speed : PortSpeed) : speed.toText ≠ [] := by
  cases valid : speed.valid with
  | false => rw [toText_of_not_valid valid]; decide
  | true =>
      obtain ⟨count, unit, rendered, _⟩ := toText_eq valid
      rw [rendered]
      exact List.append_ne_nil_of_left_ne_nil (formatU64_ne_nil _) _

end PortSpeed
@[simp] theorem PortSpeed.rendered_inj {first second : PortSpeed} :
    ((if first.valid then first.toText else []) = if second.valid then second.toText else []) ↔
      first = second := by
  refine ⟨fun same => ?_, by rintro rfl; rfl⟩
  cases firstValid : first.valid <;> cases secondValid : second.valid <;>
    simp only [firstValid, secondValid, if_true, if_false, Bool.false_eq_true] at same
  · rw [eq_unspecified firstValid, eq_unspecified secondValid]
  · exact absurd same.symm (toText_ne_nil second)
  · exact absurd same (toText_ne_nil first)
  · exact toText_injective same

@[simp] theorem PortSpeed.plain_rendered (speed : PortSpeed) :
    Plain (if speed.valid then speed.toText else []) := by
  split <;> simp

namespace Mtu

theorem eq_unspecified {mtu : Mtu} (invalid : mtu.valid = false) : mtu = unspecified := by
  cases mtu with
  | mk value _ =>
      have zero : value = 0 := by simpa [valid] using invalid
      cases zero
      rfl

@[simp] theorem rendered_inj {first second : Mtu} :
    ((if first.valid then first.toText else []) = if second.valid then second.toText else []) ↔
      first = second := by
  refine ⟨fun same => ?_, by rintro rfl; rfl⟩
  cases firstValid : first.valid <;> cases secondValid : second.valid <;>
    simp only [toText, firstValid, secondValid, if_true, if_false, Bool.false_eq_true] at same
  · rw [eq_unspecified firstValid, eq_unspecified secondValid]
  · exact absurd same.symm (formatU64_ne_nil _)
  · exact absurd same (formatU64_ne_nil _)
  · cases first
    cases second
    simpa using same

@[simp] theorem plain_rendered (mtu : Mtu) : Plain (if mtu.valid then mtu.toText else []) := by
  unfold toText
  split <;> simp

end Mtu

namespace LaneConfiguration

theorem eq_unspecified {lanes : LaneConfiguration} (invalid : lanes.valid = false) :
    lanes = unspecified := by
  cases lanes with
  | mk lanes perLane consistent =>
      rcases consistent with ⟨rfl, rfl⟩ | ⟨positive, _, valid_lane, _⟩
      · rfl
      · simp [valid, valid_lane, Nat.ne_of_gt positive] at invalid

theorem toText_of_valid {lanes : LaneConfiguration} (valid : lanes.valid = true) :
    ∃ total : PortSpeed, lanes.toText =
      formatU64 lanes.lanes ++
        (text "x" ++ (lanes.perLane.toText ++ (text "=" ++ total.toText))) := by
  have representable : ∃ total, lanes.total = some total := by
    rcases lanes.consistent with ⟨absent, _⟩ | ⟨_, _, _, isSome⟩
    · simp [LaneConfiguration.valid, absent] at valid
    · simpa only [total, valid, if_true] using Option.isSome_iff_exists.mp isSome
  obtain ⟨total, found⟩ := representable
  refine ⟨total, ?_⟩
  simp only [toText, valid, Bool.not_true, Bool.false_eq_true, if_false, found, List.append_assoc]

theorem toText_of_not_valid {lanes : LaneConfiguration} (invalid : lanes.valid = false) :
    lanes.toText = text "UNSPECIFIED" := by
  simp [toText, invalid]

theorem toText_ne_unspecified {lanes : LaneConfiguration} (valid : lanes.valid = true) :
    lanes.toText ≠ text "UNSPECIFIED" := by
  obtain ⟨total, rendered⟩ := toText_of_valid valid
  rw [rendered]
  exact formatU64_append_ne (by decide)

theorem toText_injective : Function.Injective toText := by
  intro first second same
  cases firstValid : first.valid <;> cases secondValid : second.valid
  · rw [eq_unspecified firstValid, eq_unspecified secondValid]
  · exact absurd (same.symm.trans (toText_of_not_valid firstValid))
      (toText_ne_unspecified secondValid)
  · exact absurd (same.trans (toText_of_not_valid secondValid)) (toText_ne_unspecified firstValid)
  · obtain ⟨total, rendered⟩ := toText_of_valid firstValid
    obtain ⟨total', rendered'⟩ := toText_of_valid secondValid
    rw [rendered, rendered'] at same
    have led {rest : Text} (byte : UInt8) (starts : (text "x" ++ rest).head? = some byte) :
        isDecimal byte = false := by
      cases Option.some.inj starts
      decide
    obtain ⟨lanes, rates⟩ := formatU64_append_inj led led same
    have free : (0x3d : UInt8) ∉ first.perLane.toText :=
      first.perLane.plain_toText.not_mem (by decide)
    obtain ⟨perLane, _⟩ :=
      Delimited.first_split free (second.perLane.plain_toText.not_mem (by decide))
        (List.append_cancel_left rates)
    cases first
    cases second
    simp only [mk.injEq]
    exact ⟨lanes, PortSpeed.toText_injective perLane⟩

@[simp] theorem toText_inj {first second : LaneConfiguration} :
    first.toText = second.toText ↔ first = second := toText_injective.eq_iff

theorem not_mem_toText (lanes : LaneConfiguration) : (0x3b : UInt8) ∉ lanes.toText := by
  cases valid : lanes.valid with
  | false =>
      rw [toText_of_not_valid valid]
      decide
  | true =>
      obtain ⟨total, rendered⟩ := toText_of_valid valid
      rw [rendered]
      simp only [List.mem_append, not_or]
      exact ⟨(plain_formatU64 _).not_mem (by decide), by decide,
        lanes.perLane.plain_toText.not_mem (by decide), by decide,
        total.plain_toText.not_mem (by decide)⟩

end LaneConfiguration

theorem reference_inj {ids : IdDomain} {generations : GenerationDomain}
    {first second : StrongId ids} {generation other : Generation generations} :
    first.value ++ text "@" ++ generation.format = second.value ++ text "@" ++ other.format ↔
      first = second ∧ generation = other := by
  constructor
  · intro same
    rw [List.append_assoc, List.append_assoc] at same
    obtain ⟨id, rendered⟩ := Delimited.first_split (first.plain.not_mem (by decide))
      (second.plain.not_mem (by decide)) same
    exact ⟨StrongId.ext id, Generation.format_inj.mp rendered⟩
  · intro given
    rcases given with ⟨rfl, rfl⟩
    rfl

theorem reference_ne {id : Text} {back word : Text} (free : (0x40 : UInt8) ∉ word) :
    id ++ text "@" ++ back ≠ word := by
  intro same
  subst same
  exact free (List.mem_append_left _ (List.mem_append_right _ (by decide)))

namespace ProfileBinding

/-- What the rendering tells of a binding. -/
def Alike (first second : ProfileBinding) : Prop :=
  first.bound = second.bound ∧
    (first.bound = true → first.id = second.id ∧ first.generation = second.generation)

@[simp] theorem toText_alike {first second : ProfileBinding} :
    first.toText = second.toText ↔ first.Alike second := by
  unfold toText Alike
  cases first.bound <;> cases second.bound <;>
    simp only [if_true, if_false, Bool.false_eq_true, reduceCtorEq, false_and, true_and,
      true_implies, false_implies, iff_false]
  · exact fun same => reference_ne (by decide) same.symm
  · exact reference_ne (by decide)
  · exact reference_inj

theorem not_mem_toText (binding : ProfileBinding) : (0x3b : UInt8) ∉ binding.toText := by
  unfold toText
  split
  · simp only [List.mem_append, not_or]
    exact ⟨⟨binding.id.plain.not_mem (by decide), by decide⟩,
      binding.generation.plain_format.not_mem (by decide)⟩
  · decide

end ProfileBinding

namespace AggregationMembership

/-- What the rendering tells of a membership. -/
def Alike (first second : AggregationMembership) : Prop :=
  first.member = second.member ∧
    (first.member = true → first.aggregate = second.aggregate ∧
      first.generation = second.generation ∧
      first.administrativeParticipation = second.administrativeParticipation)

@[simp] theorem toText_alike {first second : AggregationMembership} :
    first.toText = second.toText ↔ first.Alike second := by
  unfold toText Alike
  cases first.member <;> cases second.member <;>
    simp only [Bool.not_true, Bool.not_false, if_true, if_false, Bool.false_eq_true, reduceCtorEq,
      false_and, true_and, true_implies, false_implies, iff_false]
  · rw [List.append_assoc]
    exact fun same => reference_ne (by decide) same.symm
  · rw [List.append_assoc]
    exact reference_ne (by decide)
  · have blank (participating : Bool) : ∃ rest,
        (if participating then text " participating" else text " passive") = 0x20 :: rest := by
      cases participating <;> exact ⟨_, rfl⟩
    have free (id : AggregateId) (generation : MembershipGeneration) :
        (0x20 : UInt8) ∉ id.value ++ text "@" ++ generation.format := by
      simp only [List.mem_append, not_or]
      exact ⟨⟨id.plain.not_mem (by decide), by decide⟩, generation.plain_format.not_mem (by decide)⟩
    constructor
    · intro same
      obtain ⟨rest, participation⟩ := blank first.administrativeParticipation
      obtain ⟨rest', participation'⟩ := blank second.administrativeParticipation
      rw [participation, participation'] at same
      obtain ⟨reference, rfl⟩ := Delimited.first_split (free _ _) (free _ _) same
      obtain ⟨aggregate, generation⟩ := reference_inj.mp reference
      refine ⟨aggregate, generation, ?_⟩
      have words := participation.trans participation'.symm
      revert words
      cases first.administrativeParticipation <;> cases second.administrativeParticipation <;>
        decide
    · intro given
      rcases given with ⟨aggregate, generation, participation⟩
      rw [aggregate, generation, participation]

theorem not_mem_toText (aggregation : AggregationMembership) :
    (0x3b : UInt8) ∉ aggregation.toText := by
  unfold toText
  split
  · decide
  · simp only [List.mem_append, not_or]
    refine ⟨⟨⟨aggregation.aggregate.plain.not_mem (by decide), by decide⟩,
      aggregation.generation.plain_format.not_mem (by decide)⟩, ?_⟩
    split <;> decide

end AggregationMembership

section Lists

variable {α : Type} {render : α → Text}

/-- Comma separated renderings are renderings led by commas, without the first. -/
theorem cons_intercalate {first : Text} {rest : List Text} :
    0x2c :: (text ",").intercalate (first :: rest) = Delimited.joined 0x2c (first :: rest) := by
  have comma : text "," = [0x2c] := rfl
  induction rest generalizing first with
  | nil => simp
  | cons second others ih =>
      rw [comma, List.intercalate_cons_cons, Delimited.joined_cons, ← ih, comma]
      simp

theorem renderList_inj {first second : List α} (plain : ∀ value, Plain (render value))
    (named : ∀ value, render value ≠ text "none") :
    renderList render first = renderList render second ↔
      first.map render = second.map render := by
  have free (values : List α) : ∀ segment ∈ values.map render, (0x2c : UInt8) ∉ segment := by
    intro segment member
    obtain ⟨value, _, rfl⟩ := List.mem_map.mp member
    exact (plain value).not_mem (by decide)
  have absent (value : α) (rest : List α) :
      (text ",").intercalate ((value :: rest).map render) ≠ text "none" := by
    intro same
    have led : Delimited.joined 0x2c ((value :: rest).map render) =
        Delimited.joined 0x2c [text "none"] := by
      rw [List.map_cons, ← cons_intercalate, ← List.map_cons, same]
      rfl
    have single := Delimited.joined_injective (free _) (by decide) led
    exact named value (List.cons.inj single).1
  cases first with
  | nil =>
      cases second with
      | nil => simp
      | cons value rest =>
          simp only [List.map_nil, List.map_cons, reduceCtorEq, iff_false]
          exact fun same => absent value rest same.symm
  | cons value rest =>
      cases second with
      | nil =>
          simp only [List.map_nil, List.map_cons, reduceCtorEq, iff_false]
          exact absent value rest
      | cons other others =>
          refine ⟨fun same => ?_, fun same => ?_⟩
          · apply Delimited.joined_injective (free _) (free _)
            rw [List.map_cons, List.map_cons, ← cons_intercalate, ← cons_intercalate]
            exact congrArg _ same
          · simp only [renderList, List.isEmpty_cons, Bool.false_eq_true, if_false, same]

theorem not_mem_renderList {values : List α} {byte : UInt8} (plain : ∀ value, Plain (render value))
    (separates : isInterior byte = false) (other : byte ≠ 0x2c) :
    byte ∉ renderList render values := by
  cases values with
  | nil => exact (show Plain (text "none") by decide).not_mem separates
  | cons value rest =>
      intro member
      have led := List.mem_cons_of_mem 0x2c member
      rw [renderList, List.isEmpty_cons, if_neg Bool.false_ne_true, List.map_cons,
        cons_intercalate] at led
      obtain ⟨segment, inside, held⟩ := List.mem_flatMap.mp led
      rcases List.mem_cons.mp held with comma | within
      · exact other comma
      · obtain ⟨source, _, rfl⟩ := List.mem_map.mp (List.map_cons ▸ inside)
        exact (plain source).not_mem separates within

end Lists

namespace PortCapabilities

/-- What the rendering tells of the evidence. -/
structure Alike (first second : PortCapabilities) : Prop where
  certainty : first.certainty.toText = second.certainty.toText
  supportedSpeeds : first.supportedSpeeds = second.supportedSpeeds
  laneModes : first.laneModes = second.laneModes
  maxLanes : first.maxLanes = second.maxLanes
  breakoutSupported : first.breakoutSupported = second.breakoutSupported
  fecModes : first.fecModes.map FecMode.toText = second.fecModes.map FecMode.toText
  capabilityMtuMin : first.capabilityMtuMin = second.capabilityMtuMin
  capabilityMtuMax : first.capabilityMtuMax = second.capabilityMtuMax
  protocolFamilies : first.protocolFamilies.map ProtocolFamily.toText =
    second.protocolFamilies.map ProtocolFamily.toText

/-- The parts of the rendering, which blanks separate. -/
def segments (capabilities : PortCapabilities) : List Text :=
  [ text "certainty=" ++ capabilities.certainty.toText,
    text "speeds=" ++ renderList PortSpeed.toText capabilities.supportedSpeeds,
    text "lanes=" ++ renderList (fun lanes => formatU64 lanes.toNat) capabilities.laneModes,
    text "max_lanes=" ++ formatU64 capabilities.maxLanes.toNat,
    text "breakout=" ++ formatBool capabilities.breakoutSupported,
    text "fec=" ++ renderList FecMode.toText capabilities.fecModes,
    text "mtu=" ++ (formatU64 capabilities.capabilityMtuMin.toNat ++
      (text "-" ++ formatU64 capabilities.capabilityMtuMax.toNat)),
    text "protocols=" ++ renderList ProtocolFamily.toText capabilities.protocolFamilies ]

theorem cons_toText (capabilities : PortCapabilities) :
    0x20 :: capabilities.toText = Delimited.joined 0x20 capabilities.segments := by
  unfold toText
  simp only [segments, Delimited.joined_cons, Delimited.joined_nil, List.append_assoc,
    List.append_nil]
  rfl

theorem segments_free (capabilities : PortCapabilities) :
    ∀ segment ∈ capabilities.segments, (0x20 : UInt8) ∉ segment := by
  simp only [segments, List.forall_mem_cons, List.mem_append, not_or]
  refine ⟨⟨by decide, capabilities.certainty.plain_toText.not_mem (by decide)⟩,
    ⟨by decide, not_mem_renderList PortSpeed.plain_toText (by decide) (by decide)⟩,
    ⟨by decide, not_mem_renderList (fun _ => plain_formatU64 _) (by decide) (by decide)⟩,
    ⟨by decide, (plain_formatU64 _).not_mem (by decide)⟩,
    ⟨by decide, (plain_formatBool _).not_mem (by decide)⟩,
    ⟨by decide, not_mem_renderList FecMode.plain_toText (by decide) (by decide)⟩,
    ⟨by decide, (plain_formatU64 _).not_mem (by decide), by decide,
      (plain_formatU64 _).not_mem (by decide)⟩,
    ⟨by decide, not_mem_renderList ProtocolFamily.plain_toText (by decide) (by decide)⟩,
    fun _ member => by cases member⟩

theorem segments_alike {first second : PortCapabilities} :
    first.segments = second.segments ↔ first.Alike second := by
  have speeds : first.supportedSpeeds.map PortSpeed.toText =
      second.supportedSpeeds.map PortSpeed.toText ↔
        first.supportedSpeeds = second.supportedSpeeds :=
    (List.map_injective_iff.mpr PortSpeed.toText_injective).eq_iff
  have lanes : first.laneModes.map (fun lanes => formatU64 lanes.toNat) =
      second.laneModes.map (fun lanes => formatU64 lanes.toNat) ↔
        first.laneModes = second.laneModes :=
    (List.map_injective_iff.mpr fun _ _ same =>
      UInt32.toNat_inj.mp (formatU64_injective same)).eq_iff
  have bounds : formatU64 first.capabilityMtuMin.toNat ++
        (text "-" ++ formatU64 first.capabilityMtuMax.toNat) =
      formatU64 second.capabilityMtuMin.toNat ++
        (text "-" ++ formatU64 second.capabilityMtuMax.toNat) ↔
      first.capabilityMtuMin = second.capabilityMtuMin ∧
        first.capabilityMtuMax = second.capabilityMtuMax := by
    constructor
    · intro same
      have led {rest : Text} (byte : UInt8) (starts : (text "-" ++ rest).head? = some byte) :
          isDecimal byte = false := by
        cases Option.some.inj starts
        decide
      obtain ⟨lower, upper⟩ := formatU64_append_inj led led same
      exact ⟨UInt32.toNat_inj.mp lower,
        UInt32.toNat_inj.mp (formatU64_injective (List.append_cancel_left upper))⟩
    · intro given
      rcases given with ⟨lower, upper⟩
      rw [lower, upper]
  simp only [segments, List.cons.injEq, List.append_cancel_left_eq, and_true, formatU64_inj,
    UInt32.toNat_inj, formatBool_inj, bounds]
  rw [renderList_inj PortSpeed.plain_toText, renderList_inj (fun _ => plain_formatU64 _),
    renderList_inj FecMode.plain_toText, renderList_inj ProtocolFamily.plain_toText, speeds, lanes]
  · constructor
    · intro given
      rcases given with ⟨certainty, speeds, lanes, most, breakout, fec, ⟨lower, upper⟩, protocols⟩
      exact ⟨certainty, speeds, lanes, most, breakout, fec, lower, upper, protocols⟩
    · intro given
      rcases given with ⟨certainty, speeds, lanes, most, breakout, fec, lower, upper, protocols⟩
      exact ⟨certainty, speeds, lanes, most, breakout, fec, ⟨lower, upper⟩, protocols⟩
  · intro family
    cases family <;> simp only [ProtocolFamily.toText] <;> decide
  · intro mode
    cases mode <;> simp only [FecMode.toText] <;> decide
  · exact fun lanes => formatU64_ne (by decide)
  · exact PortSpeed.toText_ne (by decide) (by decide)

/-- Two renderings agree exactly when the evidence does in every dimension they show. -/
theorem toText_alike {first second : PortCapabilities} :
    first.toText = second.toText ↔ first.Alike second := by
  rw [← segments_alike]
  constructor
  · intro same
    apply Delimited.joined_injective first.segments_free second.segments_free
    rw [← cons_toText, ← cons_toText, same]
  · intro same
    have led := first.cons_toText
    rw [same, ← cons_toText] at led
    exact (List.cons.inj led).2

end PortCapabilities
end PortFabric
