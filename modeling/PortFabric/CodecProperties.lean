import PortFabric.Codec

/-!
# Properties of the byte codec

What the writer emits, and that every primitive reader reads exactly what the
writer of the same name emits.
-/

set_option autoImplicit false

namespace PortFabric

open Formats

section LittleEndian

variable {width value : Nat}

theorem littleEndian_succ (width value : Nat) :
    littleEndian (width + 1) value = UInt8.ofNat value :: littleEndian width (value / 256) := by
  have shift : ∀ index, value >>> (8 * (index + 1)) = (value / 256) >>> (8 * index) := by
    intro index
    rw [show value / 256 = value >>> 8 from (Nat.shiftRight_eq_div_pow value 8).symm,
      ← Nat.shiftRight_add]
    congr 1
    omega
  simp only [littleEndian, List.range_succ_eq_map, List.map_cons, List.map_map, Nat.mul_zero,
    Nat.shiftRight_zero, Function.comp_def, Nat.succ_eq_add_one, shift]

@[simp] theorem length_littleEndian (width value : Nat) :
    (littleEndian width value).length = width := by
  simp [littleEndian]

theorem ofLittleEndian_littleEndian (bounded : value < 256 ^ width) :
    ofLittleEndian (littleEndian width value) = value := by
  induction width generalizing value with
  | zero =>
      have zero : value = 0 := by simpa using bounded
      subst zero
      rfl
  | succ width ih =>
      have higher : value / 256 < 256 ^ width := by
        rw [Nat.div_lt_iff_lt_mul (by decide), ← Nat.pow_succ]
        exact bounded
      rw [littleEndian_succ, ofLittleEndian, ih higher, UInt8.toNat_ofNat']
      omega

theorem ofLittleEndian_lt (bytes : Text) : ofLittleEndian bytes < 256 ^ bytes.length := by
  induction bytes with
  | nil => exact Nat.one_pos
  | cons byte rest ih =>
      have low := byte.toNat_lt
      rw [ofLittleEndian, List.length_cons, Nat.pow_succ]
      omega

theorem littleEndian_ofLittleEndian (bytes : Text) :
    littleEndian bytes.length (ofLittleEndian bytes) = bytes := by
  induction bytes with
  | nil => rfl
  | cons byte rest ih =>
      have low := byte.toNat_lt
      have quotient : (byte.toNat + 256 * ofLittleEndian rest) / 256 = ofLittleEndian rest := by
        omega
      have digit : UInt8.ofNat (byte.toNat + 256 * ofLittleEndian rest) = byte := by
        apply UInt8.toNat_inj.mp
        rw [UInt8.toNat_ofNat']
        omega
      rw [List.length_cons, littleEndian_succ, ofLittleEndian, quotient, digit, ih]

theorem littleEndian_inj {other : Nat} (bounded : value < 256 ^ width)
    (below : other < 256 ^ width) (same : littleEndian width value = littleEndian width other) :
    value = other := by
  rw [← ofLittleEndian_littleEndian bounded, same, ofLittleEndian_littleEndian below]

end LittleEndian

namespace ByteReader

theorem reads_raw (length : Nat) :
    Reads (fun _ => True) (raw length) (fun bytes => [some bytes])
      (fun bytes => bytes.length = length) := by
  intro input bytes rest
  rw [Layout.document_piece]
  change (if input.length < length then Except.error () else _) = _ ↔ _
  split
  · next short =>
      refine iff_of_false nofun ?_
      intro given
      rcases given with ⟨_, rfl, _, same, rfl⟩
      cases same
      rw [List.length_append] at short
      omega
  · next room =>
      constructor
      · intro read
        cases read
        exact ⟨trivial, List.length_take_of_le (Nat.not_lt.mp room), _, rfl,
          (List.take_append_drop ..).symm⟩
      · intro given
        rcases given with ⟨_, rfl, _, same, rfl⟩
        cases same
        simp

theorem reads_unsigned (width : Nat) :
    Reads (fun _ => True) (unsigned width) (ByteLayout.unsigned width)
      (fun value => value < 256 ^ width) := by
  intro input value rest
  simp only [unsigned, run_bind_ok, run_pure_ok, reads_raw _ _ _ _, ByteLayout.unsigned,
    Layout.document_piece]
  constructor
  · intro given
    rcases given with ⟨bytes, _, ⟨_, rfl, _, same, rfl⟩, rfl, rfl⟩
    cases same
    exact ⟨trivial, ofLittleEndian_lt bytes, bytes,
      congrArg some (littleEndian_ofLittleEndian bytes), rfl⟩
  · intro given
    rcases given with ⟨_, bounded, _, same, rfl⟩
    cases same
    exact ⟨littleEndian width value, rest,
      ⟨trivial, length_littleEndian _ _, _, rfl, rfl⟩, ofLittleEndian_littleEndian bounded, rfl⟩

/-- A machine word is read as the unsigned value of its width. -/
theorem reads_word {α : Type} {width : Nat} {ofNat : Nat → α} {toNat : α → Nat}
    (left : ∀ word, ofNat (toNat word) = word)
    (right : ∀ value, value < 256 ^ width → toNat (ofNat value) = value)
    (bounded : ∀ word, toNat word < 256 ^ width) :
    Reads (fun _ => True) (do return ofNat (← unsigned width))
      (fun word => ByteLayout.unsigned width (toNat word)) fun _ => True := by
  intro input word rest
  simp only [run_bind_ok, run_pure_ok, reads_unsigned _ _ _ _]
  constructor
  · intro given
    rcases given with ⟨value, _, ⟨_, below, written⟩, rfl, rfl⟩
    rw [right value below]
    exact ⟨trivial, trivial, written⟩
  · intro given
    rcases given with ⟨_, _, written⟩
    exact ⟨toNat word, rest, ⟨trivial, bounded word, written⟩, left word, rfl⟩

theorem reads_u8 :
    Reads (fun _ => True) u8 (fun value => ByteLayout.unsigned 1 value.toNat) fun _ => True :=
  reads_word (fun _ => UInt8.ofNat_toNat) (fun _ => UInt8.toNat_ofNat_of_lt')
    (fun value => value.toNat_lt)

theorem reads_u16 :
    Reads (fun _ => True) u16 (fun value => ByteLayout.unsigned 2 value.toNat) fun _ => True :=
  reads_word (fun _ => UInt16.ofNat_toNat) (fun _ => UInt16.toNat_ofNat_of_lt')
    (fun value => value.toNat_lt)

theorem reads_u32 :
    Reads (fun _ => True) u32 (fun value => ByteLayout.unsigned 4 value.toNat) fun _ => True :=
  reads_word (fun _ => UInt32.ofNat_toNat) (fun _ => UInt32.toNat_ofNat_of_lt')
    (fun value => value.toNat_lt)

theorem reads_u64 :
    Reads (fun _ => True) u64 (fun value => ByteLayout.unsigned 8 value.toNat) fun _ => True :=
  reads_word (fun _ => UInt64.ofNat_toNat) (fun _ => UInt64.toNat_ofNat_of_lt')
    (fun value => value.toNat_lt)

theorem reads_boolean :
    Reads (fun _ => True) boolean ByteLayout.boolean fun _ => True := by
  have inverse : ∀ (raw : UInt8) (value : Bool),
      (if raw > 1 then none else some (decide (raw = 1))) = some value ↔
        True ∧ UInt8.ofNat value.toNat = raw := by
    intro raw value
    split
    · next beyond =>
        refine iff_of_false nofun ?_
        intro given
        rcases given with ⟨_, rfl⟩
        cases value <;> revert beyond <;> decide
    · next flag =>
        have small : raw.toNat ≤ 1 := by simpa [UInt8.lt_iff_toNat_lt] using flag
        obtain zero | one : raw = 0 ∨ raw = 1 := by
          rcases Nat.le_one_iff_eq_zero_or_eq_one.mp small with zero | one
          · exact .inl (UInt8.toNat_inj.mp zero)
          · exact .inr (UInt8.toNat_inj.mp one)
        · subst zero
          cases value <;> decide
        · subst one
          cases value <;> decide
  refine (reads_u8.convert inverse).congr (fun value => ?_) fun _ => and_self_iff
  cases value with
  | false => rfl
  | true => rfl

theorem reads_text (maxLength : Nat) (narrow : maxLength < 256 ^ 4) :
    Reads (fun _ => True) (text maxLength) (fun value => ByteLayout.text value maxLength)
      fun _ => True := by
  intro input value rest
  have step : ∀ (length : UInt32) middle,
      (if length.toNat > maxLength then fail else raw length.toNat).run middle =
          .ok (value, rest) ↔
        value.length = length.toNat ∧ length.toNat ≤ maxLength ∧ middle = value ++ rest := by
    intro length middle
    split
    · next beyond =>
        refine iff_of_false run_throw_ne_ok ?_
        intro given
        rcases given with ⟨_, within, _⟩
        omega
    · next within =>
        rw [reads_raw, Layout.document_piece]
        constructor
        · intro given
          rcases given with ⟨_, same, _, piece, rfl⟩
          cases piece
          exact ⟨same, Nat.not_lt.mp within, rfl⟩
        · intro given
          rcases given with ⟨same, _, rfl⟩
          exact ⟨trivial, same, value, rfl, rfl⟩
  simp only [text, run_bind_ok, step, reads_u32 _ _ _, ByteLayout.unsigned, Layout.document_piece,
    ByteLayout.text]
  constructor
  · intro given
    rcases given with ⟨length, _, ⟨_, _, _, piece, rfl⟩, same, within, rfl⟩
    cases piece
    rw [if_neg (by omega), ← same]
    exact ⟨trivial, trivial, _,
      Layout.document_cons.mpr ⟨_, value, rfl, Layout.document_piece, rfl⟩,
      (List.append_assoc ..).symm⟩
  · intro given
    rcases given with ⟨_, _, document, written, rfl⟩
    split at written
    · cases written
    · next within =>
        obtain ⟨_, _, piece, last, rfl⟩ := Layout.document_cons.mp written
        rw [Layout.document_piece] at last
        cases piece
        cases last
        have bounded : value.length < 2 ^ 32 := by omega
        refine ⟨UInt32.ofNat value.length, value ++ rest, ⟨trivial, trivial, _, rfl, ?_⟩, ?_,
          ?_, rfl⟩
        · rw [UInt32.toNat_ofNat_of_lt' bounded, List.append_assoc]
        · rw [UInt32.toNat_ofNat_of_lt' bounded]
        · rw [UInt32.toNat_ofNat_of_lt' bounded]
          exact Nat.not_lt.mp within

end ByteReader

namespace ByteWriter

/-- Emits one piece; a missing piece poisons the writer. -/
def piece (writer : ByteWriter) : Option Text → ByteWriter
  | some bytes => writer.raw bytes
  | none => { writer with ok := false }

def emit (writer : ByteWriter) (layout : ByteLayout) : ByteWriter := layout.foldl piece writer

variable {writer : ByteWriter} {layout : ByteLayout}

@[simp] theorem emit_nil (writer : ByteWriter) : writer.emit [] = writer := rfl

@[simp] theorem emit_append (writer : ByteWriter) (front back : ByteLayout) :
    writer.emit (front ++ back) = (writer.emit front).emit back :=
  List.foldl_append

theorem raw_eq_emit (writer : ByteWriter) (bytes : Text) :
    writer.raw bytes = writer.emit [some bytes] := rfl

theorem u8_eq_emit (writer : ByteWriter) (value : Nat) :
    writer.u8 value = writer.emit (ByteLayout.unsigned 1 value) := rfl

theorem u16_eq_emit (writer : ByteWriter) (value : Nat) :
    writer.u16 value = writer.emit (ByteLayout.unsigned 2 value) := rfl

theorem u32_eq_emit (writer : ByteWriter) (value : Nat) :
    writer.u32 value = writer.emit (ByteLayout.unsigned 4 value) := rfl

theorem u64_eq_emit (writer : ByteWriter) (value : Nat) :
    writer.u64 value = writer.emit (ByteLayout.unsigned 8 value) := rfl

theorem boolean_eq_emit (writer : ByteWriter) (value : Bool) :
    writer.boolean value = writer.emit (ByteLayout.boolean value) := rfl

theorem text_eq_emit (writer : ByteWriter) (value : Text) (maxLength : Nat) :
    writer.text value maxLength = writer.emit (ByteLayout.text value maxLength) := by
  unfold ByteWriter.text ByteLayout.text
  split
  · rfl
  · rfl

theorem each_eq_emit {α : Type} {write : ByteWriter → α → ByteWriter} {layout : α → ByteLayout}
    (emits : ∀ writer value, write writer value = writer.emit (layout value)) (values : List α)
    (writer : ByteWriter) :
    writer.each values write = writer.emit (values.flatMap layout) := by
  unfold ByteWriter.each
  induction values generalizing writer with
  | nil => rfl
  | cons value others ih => rw [List.foldl_cons, ih, emits, List.flatMap_cons, emit_append]

/-- The writer with the bytes appended. -/
def appended (writer : ByteWriter) (bytes : Text) : ByteWriter :=
  { writer with out := writer.out ++ bytes }

/-- A sound writer whose content is within its limit. -/
structure Sound (writer : ByteWriter) : Prop where
  ok : writer.ok = true
  within : writer.out.length ≤ writer.limit

theorem emit_poisoned (poisoned : writer.ok = false) : (writer.emit layout).ok = false := by
  induction layout generalizing writer with
  | nil => exact poisoned
  | cons first rest ih =>
      refine ih ?_
      cases first with
      | none => rfl
      | some bytes =>
          rw [piece, raw, if_pos (by rw [poisoned]; rfl)]
          exact poisoned

theorem Sound.raw_fits {bytes : Text} (sound : writer.Sound)
    (fits : writer.out.length + bytes.length ≤ writer.limit) :
    writer.raw bytes = writer.appended bytes ∧ (writer.appended bytes).Sound := by
  have room : ¬(bytes.length > writer.limit ∨
      writer.out.length > writer.limit - bytes.length) := by
    omega
  refine ⟨?_, sound.ok, ?_⟩
  · rw [raw, if_neg (by rw [sound.ok]; decide), if_neg room]
    rfl
  · rw [appended, List.length_append]
    exact fits

theorem Sound.raw_over {bytes : Text} (sound : writer.Sound)
    (beyond : writer.limit < writer.out.length + bytes.length) :
    (writer.raw bytes).ok = false := by
  have full : bytes.length > writer.limit ∨
      writer.out.length > writer.limit - bytes.length := by
    omega
  rw [raw, if_neg (by rw [sound.ok]; decide), if_pos full]

/-- A document that can be written and fits is appended as a whole. -/
theorem Sound.emit_eq {document : Text} (sound : writer.Sound)
    (written : layout.document = some document)
    (fits : writer.out.length + document.length ≤ writer.limit) :
    writer.emit layout = writer.appended document := by
  induction layout generalizing writer document with
  | nil =>
      cases written
      simp [appended]
  | cons first rest ih =>
      obtain ⟨bytes, back, rfl, tail, rfl⟩ := Layout.document_cons.mp written
      rw [List.length_append] at fits
      have head : writer.out.length + bytes.length ≤ writer.limit := by omega
      obtain ⟨wrote, next⟩ := sound.raw_fits head
      have room : (writer.appended bytes).out.length + back.length ≤ writer.limit := by
        simp only [appended, List.length_append]
        omega
      have split : writer.emit (some bytes :: rest) = (writer.raw bytes).emit rest := rfl
      rw [split, wrote, ih next tail room]
      simp [appended]

/-- Writing succeeds exactly for a document that can be written and fits. -/
theorem Sound.emit_ok_iff (sound : writer.Sound) :
    (writer.emit layout).ok = true ↔
      ∃ document, layout.document = some document ∧
        writer.out.length + document.length ≤ writer.limit := by
  constructor
  · intro accepted
    induction layout generalizing writer with
    | nil => exact ⟨[], rfl, sound.within⟩
    | cons first rest ih =>
        have split : writer.emit (first :: rest) = (writer.piece first).emit rest := rfl
        rw [split] at accepted
        cases first with
        | none =>
            have poisoned : (writer.piece none).ok = false := rfl
            rw [emit_poisoned poisoned] at accepted
            cases accepted
        | some bytes =>
            by_cases fits : writer.out.length + bytes.length ≤ writer.limit
            · obtain ⟨wrote, next⟩ := sound.raw_fits fits
              rw [piece, wrote] at accepted
              obtain ⟨back, written, room⟩ := ih next accepted
              simp only [appended, List.length_append] at room
              refine ⟨bytes ++ back, Layout.document_cons.mpr ⟨_, _, rfl, written, rfl⟩, ?_⟩
              rw [List.length_append]
              omega
            · have poisoned : (writer.piece (some bytes)).ok = false :=
                sound.raw_over (Nat.not_le.mp fits)
              rw [emit_poisoned poisoned] at accepted
              cases accepted
  · intro given
    rcases given with ⟨document, written, fits⟩
    rw [sound.emit_eq written fits]
    exact sound.ok

end ByteWriter

end PortFabric
