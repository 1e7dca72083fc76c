import Mathlib.Data.List.GetD
import PortFabric.Library.Utf8
import PortFabric.Text

/-!
# UTF-8 validation

Free texts are accepted as UTF-8 exactly when they are the shortest encodings of
Unicode scalar values, one behind the other. The loop of the source runs over
positions; every turn moves the position forward, so it ends at the end of the
text or at the first sequence that is none.
-/

set_option autoImplicit false

namespace PortFabric

open Utf8

/-- What a lead byte announces: continuation bytes, its own bits, the least code point. -/
def sequenceOf (byte : UInt8) : Option (Nat × Nat × Nat) :=
  if byte &&& 0xe0 = 0xc0 then some (1, (byte &&& 0x1f).toNat, 0x80)
  else if byte &&& 0xf0 = 0xe0 then some (2, (byte &&& 0x0f).toNat, 0x800)
  else if byte &&& 0xf8 = 0xf0 then some (3, (byte &&& 0x07).toNat, 0x10000)
  else none

/-- One turn of the validation loop: the next position, or nothing when it refuses. -/
def utf8Turn (value : Text) (index : Nat) : Option Nat :=
  let byte := value.getD index 0
  if byte < 0x80 then
    some (index + 1)
  else
    match sequenceOf byte with
    | none => none
    | some (extra, lead, minimum) =>
        if index + extra ≥ value.length then none
        else if legalSequence minimum lead ((value.drop (index + 1)).take extra) then
          some (index + extra + 1)
        else none

/-- The validation loop, for as many turns as the fuel allows. -/
def utf8Loop : Nat → Text → Nat → Option Bool
  | 0, _, _ => none
  | fuel + 1, value, index =>
      if index < value.length then
        match utf8Turn value index with
        | none => some false
        | some next => utf8Loop fuel value next
      else
        some true

section Bytes

/-- A property of bytes is checked byte by byte. -/
theorem forall_byte {holds : UInt8 → Prop} (each : ∀ index : Fin 256, holds (UInt8.ofNat index))
    (byte : UInt8) : holds byte := by
  have found := each ⟨byte.toNat, byte.toNat_lt⟩
  rwa [UInt8.ofNat_toNat] at found

theorem leads_two (byte : UInt8) : byte &&& 0xe0 = 0xc0 ↔ byte.toNat / 32 = 6 := by
  revert byte
  apply forall_byte
  decide +kernel

theorem leads_three (byte : UInt8) : byte &&& 0xf0 = 0xe0 ↔ byte.toNat / 16 = 14 := by
  revert byte
  apply forall_byte
  decide +kernel

theorem leads_four (byte : UInt8) : byte &&& 0xf8 = 0xf0 ↔ byte.toNat / 8 = 30 := by
  revert byte
  apply forall_byte
  decide +kernel

theorem continues (byte : UInt8) : byte &&& 0xc0 = 0x80 ↔ byte.toNat / 64 = 2 := by
  revert byte
  apply forall_byte
  decide +kernel

theorem toNat_and_low (byte : UInt8) :
    (byte &&& 0x1f).toNat = byte.toNat % 32 ∧ (byte &&& 0x0f).toNat = byte.toNat % 16 ∧
      (byte &&& 0x07).toNat = byte.toNat % 8 ∧ (byte &&& 0x3f).toNat = byte.toNat % 64 := by
  revert byte
  apply forall_byte
  decide +kernel

end Bytes

section Sequences

theorem decodeContinuations_eq_some {continuations : List UInt8} {lead codePoint : Nat} :
    decodeContinuations lead continuations = some codePoint ↔
      Continue continuations ∧ codePoint = carried lead continuations := by
  induction continuations generalizing lead with
  | nil =>
      simp only [decodeContinuations, Option.some.injEq, Continue, carried, List.not_mem_nil,
        false_implies, implies_true, true_and, List.foldl_nil]
      exact eq_comm
  | cons byte rest ih =>
      have joined : (lead <<< 6) ||| (byte &&& 0x3f).toNat = lead * 64 + byte.toNat % 64 := by
        rw [(toNat_and_low byte).2.2.2,
          ← Nat.shiftLeft_add_eq_or_of_lt (Nat.mod_lt byte.toNat (by decide)), Nat.shiftLeft_eq]
      have first : carried lead (byte :: rest) = carried (lead * 64 + byte.toNat % 64) rest := rfl
      rw [decodeContinuations, Continue, List.forall_mem_cons, first]
      by_cases follows : byte &&& 0xc0 = 0x80
      · rw [if_pos follows, ih, joined]
        have tagged := (continues byte).mp follows
        simp only [tagged, true_and]
        exact Iff.rfl
      · rw [if_neg follows]
        have untagged : ¬byte.toNat / 64 = 2 := fun tagged => follows ((continues byte).mpr tagged)
        simp only [untagged, false_and, reduceCtorEq]

/-- A sequence is legal when it carries a scalar value that needs all of its bytes. -/
theorem legalSequence_iff {continuations : List UInt8} {minimum lead : Nat} :
    legalSequence minimum lead continuations = true ↔
      Continue continuations ∧ minimum ≤ carried lead continuations ∧
        (carried lead continuations).isValidChar := by
  unfold legalSequence
  cases decoded : decodeContinuations lead continuations with
  | none =>
      have broken : ¬Continue continuations := by
        intro follow
        rw [decodeContinuations_eq_some.mpr ⟨follow, rfl⟩] at decoded
        cases decoded
      simp only [broken, false_and, Bool.false_eq_true]
  | some codePoint =>
      obtain ⟨follow, same⟩ := decodeContinuations_eq_some.mp decoded
      rw [← same]
      simp only [follow, true_and, Nat.isValidChar, Bool.or_eq_true, Bool.and_eq_true,
        decide_eq_true_eq, Bool.ite_eq_true_distrib, Bool.false_eq_true, if_false_left, and_true]
      omega

variable {first second third fourth : UInt8}

theorem legalSequence_two (leads : first.toNat / 32 = 6) :
    legalSequence 0x80 (first &&& 0x1f).toNat [second] = true ↔
      ∃ character, String.utf8EncodeChar character = [first, second] := by
  simp only [legalSequence_iff, encode_two_iff, leads, true_and, (toNat_and_low first).1,
    exists_numbered_iff, exists_and_left]

theorem legalSequence_three (leads : first.toNat / 16 = 14) :
    legalSequence 0x800 (first &&& 0x0f).toNat [second, third] = true ↔
      ∃ character, String.utf8EncodeChar character = [first, second, third] := by
  simp only [legalSequence_iff, encode_three_iff, leads, true_and, (toNat_and_low first).2.1,
    exists_numbered_iff, exists_and_left]

theorem legalSequence_four (leads : first.toNat / 8 = 30) :
    legalSequence 0x10000 (first &&& 0x07).toNat [second, third, fourth] = true ↔
      ∃ character, String.utf8EncodeChar character = [first, second, third, fourth] := by
  simp only [legalSequence_iff, encode_four_iff, leads, true_and, (toNat_and_low first).2.2.1,
    exists_numbered_iff, exists_and_left]

end Sequences

section Texts

/-- A text is valid when its first sequence is legal and the rest is valid. -/
theorem isValidUtf8_cons (byte : UInt8) (rest : Text) :
    isValidUtf8 (byte :: rest) =
      if byte < 0x80 then isValidUtf8 rest
      else
        match sequenceOf byte with
        | none => false
        | some (extra, lead, minimum) =>
            !decide (rest.length < extra) && legalSequence minimum lead (rest.take extra) &&
              isValidUtf8 (rest.drop extra) := by
  rw [isValidUtf8.eq_def]
  dsimp only
  unfold sequenceOf
  by_cases single : byte < 0x80
  · rw [if_pos single, if_pos single]
  · rw [if_neg single, if_neg single]
    by_cases two : byte &&& 0xe0 = 0xc0
    · rw [if_pos two, if_pos two]
      rcases rest with _ | ⟨second, rest⟩
      · rfl
      · simp only [List.length_cons, Nat.not_lt.mpr (Nat.le_add_left 1 _), decide_false]
        rfl
    · rw [if_neg two, if_neg two]
      by_cases three : byte &&& 0xf0 = 0xe0
      · rw [if_pos three, if_pos three]
        rcases rest with _ | ⟨second, _ | ⟨third, rest⟩⟩
        · rfl
        · rfl
        · simp only [List.length_cons, Nat.not_lt.mpr (Nat.le_add_left 2 _), decide_false]
          rfl
      · rw [if_neg three, if_neg three]
        by_cases four : byte &&& 0xf8 = 0xf0
        · rw [if_pos four, if_pos four]
          rcases rest with _ | ⟨second, _ | ⟨third, _ | ⟨fourth, rest⟩⟩⟩
          · rfl
          · rfl
          · rfl
          · simp only [List.length_cons, Nat.not_lt.mpr (Nat.le_add_left 3 _), decide_false]
            rfl
        · rw [if_neg four, if_neg four]

theorem not_single {first : UInt8} (leads : 192 ≤ first.toNat) : ¬first < 0x80 := by
  rw [UInt8.lt_iff_toNat_lt]
  exact Nat.not_lt.mpr (Nat.le_trans (by decide) leads)

theorem sequenceOf_eq_some {first : UInt8} {extra lead minimum : Nat} :
    sequenceOf first = some (extra, lead, minimum) ↔
      (first.toNat / 32 = 6 ∧ extra = 1 ∧ lead = (first &&& 0x1f).toNat ∧ minimum = 0x80) ∨
      (first.toNat / 16 = 14 ∧ extra = 2 ∧ lead = (first &&& 0x0f).toNat ∧ minimum = 0x800) ∨
      (first.toNat / 8 = 30 ∧ extra = 3 ∧ lead = (first &&& 0x07).toNat ∧ minimum = 0x10000) := by
  simp only [sequenceOf, leads_two, leads_three, leads_four]
  split
  · simp only [Option.some.injEq, Prod.mk.injEq]
    omega
  · split
    · simp only [Option.some.injEq, Prod.mk.injEq]
      omega
    · split
      · simp only [Option.some.injEq, Prod.mk.injEq]
        omega
      · simp only [reduceCtorEq, false_iff]
        omega

/-- A sequence with all its bytes decides by itself, and leaves the rest. -/
theorem isValidUtf8_announced {first : UInt8} {extra lead minimum : Nat} {continuations : Text}
    (leads : 192 ≤ first.toNat) (told : sequenceOf first = some (extra, lead, minimum))
    (whole : continuations.length = extra) (rest : Text) :
    isValidUtf8 (first :: (continuations ++ rest)) =
      (legalSequence minimum lead continuations && isValidUtf8 rest) := by
  have present : ¬(continuations ++ rest).length < extra := by
    rw [List.length_append, whole]
    exact Nat.not_lt.mpr (Nat.le_add_right extra _)
  rw [isValidUtf8_cons, if_neg (not_single leads), told]
  dsimp only
  rw [decide_eq_false present, List.take_left' whole, List.drop_left' whole]
  rfl

/-- A character in front of a text does not change whether it is valid. -/
theorem isValidUtf8_encode_append (character : Char) (rest : Text) :
    isValidUtf8 (String.utf8EncodeChar character ++ rest) = isValidUtf8 rest := by
  obtain ⟨first, encoded⟩ | ⟨first, second, encoded⟩ | ⟨first, second, third, encoded⟩ |
      ⟨first, second, third, fourth, encoded⟩ := encode_cases character
  · have single : first < 0x80 := UInt8.lt_iff_toNat_lt.mpr (encode_one_iff.mp encoded).1
    rw [encoded, List.singleton_append, isValidUtf8_cons, if_pos single]
  · have leads := (encode_two_iff.mp encoded).1
    have legal := (legalSequence_two leads).mpr ⟨character, encoded⟩
    have told := sequenceOf_eq_some.mpr (.inl ⟨leads, rfl, rfl, rfl⟩)
    rw [encoded, List.cons_append, isValidUtf8_announced (by omega) told rfl, legal,
      Bool.true_and]
  · have leads := (encode_three_iff.mp encoded).1
    have legal := (legalSequence_three leads).mpr ⟨character, encoded⟩
    have told := sequenceOf_eq_some.mpr (.inr (.inl ⟨leads, rfl, rfl, rfl⟩))
    rw [encoded, List.cons_append, isValidUtf8_announced (by omega) told rfl, legal,
      Bool.true_and]
  · have leads := (encode_four_iff.mp encoded).1
    have legal := (legalSequence_four leads).mpr ⟨character, encoded⟩
    have told := sequenceOf_eq_some.mpr (.inr (.inr ⟨leads, rfl, rfl, rfl⟩))
    rw [encoded, List.cons_append, isValidUtf8_announced (by omega) told rfl, legal,
      Bool.true_and]

/-- A valid text that is not empty starts with a character. -/
theorem starts_with_character {byte : UInt8} {rest : Text}
    (valid : isValidUtf8 (byte :: rest) = true) :
    ∃ character back, byte :: rest = String.utf8EncodeChar character ++ back := by
  rw [isValidUtf8_cons] at valid
  split at valid
  · next single =>
      have small := UInt8.lt_iff_toNat_lt.mp single
      have scalar : byte.toNat.isValidChar := .inl (Nat.lt_trans small (by decide))
      obtain ⟨character, _, numbered⟩ := exists_numbered_iff.mp ⟨Nat.zero_le _, scalar⟩
      refine ⟨character, rest, ?_⟩
      rw [encode_one_iff.mpr ⟨small, numbered⟩]
      rfl
  · cases told : sequenceOf byte with
    | none =>
        rw [told] at valid
        cases valid
    | some announcement =>
        obtain ⟨extra, lead, minimum⟩ := announcement
        simp only [told, Bool.and_eq_true, Bool.not_eq_true', decide_eq_false_iff_not] at valid
        obtain ⟨⟨present, legal⟩, _⟩ := valid
        obtain ⟨leads, rfl, rfl, rfl⟩ | ⟨leads, rfl, rfl, rfl⟩ | ⟨leads, rfl, rfl, rfl⟩ :=
          sequenceOf_eq_some.mp told
        · rcases rest with _ | ⟨second, rest⟩
          · exact absurd (by simp) present
          · obtain ⟨character, encoded⟩ := (legalSequence_two leads).mp legal
            exact ⟨character, rest, by rw [encoded]; rfl⟩
        · rcases rest with _ | ⟨second, _ | ⟨third, rest⟩⟩
          · exact absurd (by simp) present
          · exact absurd (by simp) present
          · obtain ⟨character, encoded⟩ := (legalSequence_three leads).mp legal
            exact ⟨character, rest, by rw [encoded]; rfl⟩
        · rcases rest with _ | ⟨second, _ | ⟨third, _ | ⟨fourth, rest⟩⟩⟩
          · exact absurd (by simp) present
          · exact absurd (by simp) present
          · exact absurd (by simp) present
          · obtain ⟨character, encoded⟩ := (legalSequence_four leads).mp legal
            exact ⟨character, rest, by rw [encoded]; rfl⟩

/-- The valid texts are the encodings of the sequences of characters. -/
theorem isValidUtf8_iff_encoded (value : Text) :
    isValidUtf8 value = true ↔
      ∃ characters : List Char, value = characters.flatMap String.utf8EncodeChar := by
  constructor
  · intro valid
    induction length : value.length using Nat.strongRecOn generalizing value with
    | ind _ ih =>
        cases value with
        | nil => exact ⟨[], rfl⟩
        | cons byte rest =>
            obtain ⟨character, back, same⟩ := starts_with_character valid
            rw [same, isValidUtf8_encode_append] at valid
            have shorter : back.length < (byte :: rest).length := by
              rw [same, List.length_append, String.length_utf8EncodeChar]
              exact Nat.lt_add_of_pos_left character.utf8Size_pos
            obtain ⟨characters, encoded⟩ := ih _ (length ▸ shorter) back valid rfl
            exact ⟨character :: characters, by rw [same, encoded, List.flatMap_cons]⟩
  · intro given
    rcases given with ⟨characters, rfl⟩
    induction characters with
    | nil => rfl
    | cons character characters ih =>
        rw [List.flatMap_cons, isValidUtf8_encode_append]
        exact ih

end Texts

section Loop

/-- A turn of the loop moves forward, within the text. -/
theorem utf8Turn_advances {value : Text} {index next : Nat} (inside : index < value.length)
    (turned : utf8Turn value index = some next) : index < next ∧ next ≤ value.length := by
  unfold utf8Turn at turned
  dsimp only at turned
  split at turned
  · cases turned
    omega
  · split at turned
    · cases turned
    · split at turned
      · cases turned
      · split at turned
        · cases turned
          omega
        · cases turned

/-- A turn of the loop settles the text from its position on. -/
theorem isValidUtf8_drop {value : Text} {index : Nat} (inside : index < value.length) :
    isValidUtf8 (value.drop index) =
      match utf8Turn value index with
      | none => false
      | some next => isValidUtf8 (value.drop next) := by
  rw [List.drop_eq_getElem_cons inside, isValidUtf8_cons]
  unfold utf8Turn
  dsimp only
  rw [List.getD_eq_getElem _ _ inside]
  split
  · rfl
  · split
    · rfl
    · next extra lead minimum _ =>
        rw [List.length_drop, List.drop_drop]
        by_cases cut : index + extra ≥ value.length
        · have short : value.length - (index + 1) < extra := by omega
          rw [if_pos cut, decide_eq_true short]
          rfl
        · have room : ¬value.length - (index + 1) < extra := by omega
          rw [if_neg cut, decide_eq_false room, Bool.not_false, Bool.true_and]
          cases legal : legalSequence minimum lead ((value.drop (index + 1)).take extra) with
          | true => rw [if_pos rfl, Bool.true_and, Nat.add_right_comm]
          | false => rw [if_neg Bool.false_ne_true, Bool.false_and]

/-- The loop ends within as many turns as the text has bytes, with the verdict on the text. -/
theorem utf8Loop_eq {value : Text} {index fuel : Nat} (bounded : index ≤ value.length)
    (fuelled : value.length - index < fuel) :
    utf8Loop fuel value index = some (isValidUtf8 (value.drop index)) := by
  induction fuel generalizing index with
  | zero => cases fuelled
  | succ fuel ih =>
      rw [utf8Loop]
      by_cases inside : index < value.length
      · rw [if_pos inside, isValidUtf8_drop inside]
        cases turned : utf8Turn value index with
        | none => rfl
        | some next =>
            obtain ⟨forward, within⟩ := utf8Turn_advances inside turned
            exact ih within (by omega)
      · rw [if_neg inside, List.drop_eq_nil_of_le (Nat.not_lt.mp inside)]
        rfl

end Loop

/--
A text is accepted exactly when it is a sequence of shortest encodings of scalar
values, and the loop that decides it moves forward and ends.
-/
theorem utf8_validated (value : Text) :
    (isValidUtf8 value = true ↔
        ∃ characters : List Char, value = characters.flatMap String.utf8EncodeChar) ∧
      (∀ index next, index < value.length → utf8Turn value index = some next →
        index < next ∧ next ≤ value.length) ∧
      ∀ fuel, value.length < fuel → utf8Loop fuel value 0 = some (isValidUtf8 value) := by
  refine ⟨isValidUtf8_iff_encoded value, fun _ _ => utf8Turn_advances, ?_⟩
  intro fuel fuelled
  exact utf8Loop_eq (Nat.zero_le _) fuelled

end PortFabric
