import Mathlib.Data.List.Basic

/-!
# UTF-8

The encodings of characters by number: which bytes lead, which continue, and the
code point that the bytes of a sequence carry. A sequence encodes a character
exactly when its code point is a scalar value that needs all of its bytes.
-/

set_option autoImplicit false

namespace Utf8

/-- The code point that continuation bytes carry behind what the lead byte carries. -/
def carried (lead : Nat) (continuations : List UInt8) : Nat :=
  continuations.foldl (fun codePoint byte => codePoint * 64 + byte.toNat % 64) lead

/-- Every byte continues a sequence. -/
def Continue (continuations : List UInt8) : Prop :=
  ∀ byte ∈ continuations, byte.toNat / 64 = 2

variable {character : Char} {first second third fourth : UInt8} {codePoint : Nat}

theorem encode_one_iff :
    String.utf8EncodeChar character = [first] ↔
      first.toNat < 128 ∧ character.toNat = first.toNat := by
  have bounded := first.toNat_lt
  have value : character.val.toNat = character.toNat := rfl
  unfold String.utf8EncodeChar
  simp only [value]
  split
  · simp only [List.cons.injEq, and_true, ← UInt8.toNat_inj, UInt8.toNat_ofNat']
    omega
  · split
    · simp
      omega
    · split <;> simp <;> omega

theorem encode_two_iff :
    String.utf8EncodeChar character = [first, second] ↔
      first.toNat / 32 = 6 ∧ Continue [second] ∧ 0x80 ≤ character.toNat ∧
        character.toNat = carried (first.toNat % 32) [second] := by
  have bounded := first.toNat_lt
  have value : character.val.toNat = character.toNat := rfl
  unfold String.utf8EncodeChar
  simp only [value, Continue, carried, List.forall_mem_cons, List.foldl_cons, List.foldl_nil]
  split
  · simp
    omega
  · split
    · simp only [List.cons.injEq, and_true, ← UInt8.toNat_inj, UInt8.toNat_ofNat']
      simp
      omega
    · split <;> simp <;> omega

theorem encode_three_iff :
    String.utf8EncodeChar character = [first, second, third] ↔
      first.toNat / 16 = 14 ∧ Continue [second, third] ∧ 0x800 ≤ character.toNat ∧
        character.toNat = carried (first.toNat % 16) [second, third] := by
  have bounded := first.toNat_lt
  have value : character.val.toNat = character.toNat := rfl
  unfold String.utf8EncodeChar
  simp only [value, Continue, carried, List.forall_mem_cons, List.foldl_cons, List.foldl_nil]
  split
  · simp
    omega
  · split
    · simp
      omega
    · split
      · simp only [List.cons.injEq, and_true, ← UInt8.toNat_inj, UInt8.toNat_ofNat']
        simp
        omega
      · simp
        omega

theorem encode_four_iff :
    String.utf8EncodeChar character = [first, second, third, fourth] ↔
      first.toNat / 8 = 30 ∧ Continue [second, third, fourth] ∧ 0x10000 ≤ character.toNat ∧
        character.toNat = carried (first.toNat % 8) [second, third, fourth] := by
  have bounded := first.toNat_lt
  have value : character.val.toNat = character.toNat := rfl
  have scalar : character.toNat < 0x110000 := by
    have valid := character.valid
    change character.toNat.isValidChar at valid
    unfold Nat.isValidChar at valid
    omega
  unfold String.utf8EncodeChar
  simp only [value, Continue, carried, List.forall_mem_cons, List.foldl_cons, List.foldl_nil]
  split
  · simp
    omega
  · split
    · simp
      omega
    · split
      · simp
        omega
      · simp only [List.cons.injEq, and_true, ← UInt8.toNat_inj, UInt8.toNat_ofNat']
        simp
        omega

/-- The characters are numbered by the scalar values. -/
theorem exists_numbered_iff {least : Nat} :
    (least ≤ codePoint ∧ codePoint.isValidChar) ↔
      ∃ character : Char, least ≤ character.toNat ∧ character.toNat = codePoint := by
  constructor
  · intro given
    rcases given with ⟨bounded, scalar⟩
    have numbered : (Char.ofNatAux codePoint scalar).toNat = codePoint := rfl
    exact ⟨Char.ofNatAux codePoint scalar, numbered.symm ▸ bounded, numbered⟩
  · intro given
    rcases given with ⟨character, bounded, numbered⟩
    exact ⟨numbered ▸ bounded, numbered ▸ character.valid⟩

/-- A character is encoded in one to four bytes. -/
theorem encode_cases (character : Char) :
    (∃ first, String.utf8EncodeChar character = [first]) ∨
      (∃ first second, String.utf8EncodeChar character = [first, second]) ∨
      (∃ first second third, String.utf8EncodeChar character = [first, second, third]) ∨
      ∃ first second third fourth,
        String.utf8EncodeChar character = [first, second, third, fourth] := by
  unfold String.utf8EncodeChar
  dsimp only
  split
  · exact .inl ⟨_, rfl⟩
  · split
    · exact .inr (.inl ⟨_, _, rfl⟩)
    · split
      · exact .inr (.inr (.inl ⟨_, _, _, rfl⟩))
      · exact .inr (.inr (.inr ⟨_, _, _, _, rfl⟩))

end Utf8
