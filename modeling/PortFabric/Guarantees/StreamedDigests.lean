import PortFabric.Sha256Properties

/-!
# Streamed digests

The hash takes its input in pieces of any length. Its buffer and its state are those
of a block hash of the whole input, its padding is the one of the standard, and so
the digest is the standard's digest of everything that was taken.
-/

set_option autoImplicit false

namespace PortFabric

open BitStrings BlockHashing

namespace Sha256

/-- The state and the incomplete block, as a buffered hash. -/
def buffered (sha : Sha256) : Buffered UInt8 Sha256State := ⟨sha.state, sha.buffer⟩

/-- The state and the incomplete block that bytes lead to from the first state. -/
def reached (bytes : List UInt8) : Buffered UInt8 Sha256State :=
  consumed 64 compress initial.state bytes

section Buffering

theorem buffered_absorb (fuel : Nat) (sha : Sha256) (bytes : List UInt8) :
    (Sha256.absorb fuel sha bytes).buffered =
      BlockHashing.absorb 64 compress fuel sha.buffered bytes := by
  induction fuel generalizing sha bytes with
  | zero => rfl
  | succ fuel ih =>
      rw [Sha256.absorb, BlockHashing.absorb]
      split
      · rfl
      · rw [ih]
        congr 1
        unfold join buffered
        dsimp only
        split <;> rfl

theorem buffered_update (sha : Sha256) (bytes : List UInt8) :
    (sha.update bytes).buffered =
      BlockHashing.absorb 64 compress bytes.length sha.buffered bytes :=
  buffered_absorb bytes.length _ bytes

theorem totalBytes_absorb (fuel : Nat) (sha : Sha256) (bytes : List UInt8) :
    (Sha256.absorb fuel sha bytes).totalBytes = sha.totalBytes := by
  induction fuel generalizing sha bytes with
  | zero => rfl
  | succ fuel ih =>
      rw [Sha256.absorb]
      split
      · rfl
      · rw [ih]
        split <;> rfl

theorem totalBytes_update (sha : Sha256) (bytes : List UInt8) :
    (sha.update bytes).totalBytes = sha.totalBytes + UInt64.ofNat bytes.length :=
  totalBytes_absorb ..

theorem buffered_pad (fuel : Nat) (sha : Sha256) :
    (pad fuel sha).buffered = fill 64 compress 0 56 fuel sha.buffered := by
  induction fuel generalizing sha with
  | zero => rfl
  | succ fuel ih =>
      rw [pad, fill, show sha.buffered.buffer = sha.buffer from rfl]
      split
      · rfl
      · rw [ih, buffered_update]
        rfl

/-- An update leads from what some bytes reach to what they reach with the piece. -/
theorem update_reached {sha : Sha256} {before : List UInt8}
    (at_before : sha.buffered = reached before) (piece : List UInt8) :
    (sha.update piece).buffered = reached (before ++ piece) := by
  rw [buffered_update, at_before]
  exact absorb_consumed (by decide) (Nat.le_refl _)

end Buffering

section Chunks

variable (chunks : List (List UInt8))

theorem buffered_chunks : (chunks.foldl update initial).buffered = reached chunks.flatten := by
  have mirrored : chunks.foldl
        (fun hasher piece => BlockHashing.absorb 64 compress piece.length hasher piece)
        initial.buffered =
      (chunks.foldl update initial).buffered :=
    List.foldl_hom buffered fun sha piece => (buffered_update sha piece).symm
  rw [← mirrored]
  exact foldl_absorb_consumed (by decide) [] chunks

theorem totalBytes_foldl (sha : Sha256) :
    (chunks.foldl update sha).totalBytes =
      sha.totalBytes + UInt64.ofNat chunks.flatten.length := by
  induction chunks generalizing sha with
  | nil => exact (UInt64.add_zero _).symm
  | cons chunk chunks ih =>
      rw [List.foldl_cons, ih, totalBytes_update, List.flatten_cons, List.length_append,
        UInt64.ofNat_add, UInt64.add_assoc]

/-- The message length in bits, which 64 bits hold. -/
theorem bitLength_chunks (short : chunks.flatten.length < 2 ^ 61) :
    ((chunks.foldl update initial).totalBytes * 8).toNat = 8 * chunks.flatten.length := by
  have total : (chunks.foldl update initial).totalBytes = UInt64.ofNat chunks.flatten.length := by
    rw [totalBytes_foldl]
    exact UInt64.zero_add _
  rw [total, UInt64.toNat_mul, UInt64.toNat_ofNat_of_lt' (short.trans (by decide))]
  simp only [UInt64.reduceToNat]
  omega

end Chunks

section Padding

variable {sha : Sha256} {message : List UInt8}

/-- How many zero bytes follow the byte behind the message. -/
def zeroBytes (length : Nat) : Nat := (119 - length % 64) % 64

theorem zeroBytes_spec (length : Nat) :
    zeroBytes length < 64 ∧ (length + 1 + zeroBytes length) % 64 = 56 ∧
      ∀ earlier, earlier < zeroBytes length → (length + 1 + earlier) % 64 ≠ 56 := by
  unfold zeroBytes
  refine ⟨by omega, by omega, ?_⟩
  intro earlier less
  omega

/-- The padding loop comes to its end in less than 64 turns. -/
theorem pad_reached (at_message : sha.buffered = reached message) {fuel : Nat}
    (enough : 64 ≤ fuel) :
    (pad fuel (sha.update [0x80])).buffered =
      reached (message ++ [0x80] ++ List.replicate (zeroBytes message.length) 0) := by
  obtain ⟨few, reaches, first⟩ := zeroBytes_spec message.length
  have marked : (message ++ [(0x80 : UInt8)]).length = message.length + 1 := List.length_append
  rw [buffered_pad, update_reached at_message]
  apply fill_consumed (by decide)
  · rw [marked]
    exact reaches
  · rw [marked]
    exact first
  · omega

theorem length_pad (at_message : sha.buffered = reached message) {fuel : Nat}
    (enough : 64 ≤ fuel) : (pad fuel (sha.update [0x80])).buffer.length = 56 := by
  obtain ⟨_, reaches, _⟩ := zeroBytes_spec message.length
  have ended := congrArg (fun hasher => hasher.buffer.length) (pad_reached at_message enough)
  refine ended.trans ?_
  rw [reached, consumed, length_leftover, List.length_append, List.length_append,
    List.length_replicate]
  exact reaches

end Padding

section Digests

/-- The bytes of a number are its digits, eight at a time. -/
theorem digits_bytes {width value : Nat} {byte : UInt8} {rest : List Bool}
    (highest : byte.toNat = value / 2 ^ width % 2 ^ 8) (lower : rest = digits width value) :
    digits 8 byte.toNat ++ rest = digits (8 + width) value := by
  rw [highest, lower, digits_mod (Nat.le_refl 8), digits_add]

theorem ofBytes_wordBytes (word : UInt32) : ofBytes (wordBytes word) = digits 32 word.toNat := by
  rw [wordBytes, ofBytes_cons, ofBytes_cons, ofBytes_cons, ofBytes_cons, ofBytes_nil]
  refine @digits_bytes 24 _ _ _ ?_ (@digits_bytes 16 _ _ _ ?_ (@digits_bytes 8 _ _ _ ?_
    (@digits_bytes 0 _ _ _ ?_ rfl)))
  all_goals simp [Nat.shiftRight_eq_div_pow]

theorem ofBytes_lengthBytes (length : UInt64) :
    ofBytes (lengthBytes length) = digits 64 length.toNat := by
  simp only [lengthBytes, List.map_cons, List.map_nil, ofBytes_cons, ofBytes_nil]
  refine @digits_bytes 56 _ _ _ ?_ (@digits_bytes 48 _ _ _ ?_ (@digits_bytes 40 _ _ _ ?_
    (@digits_bytes 32 _ _ _ ?_ (@digits_bytes 24 _ _ _ ?_ (@digits_bytes 16 _ _ _ ?_
      (@digits_bytes 8 _ _ _ ?_ (@digits_bytes 0 _ _ _ ?_ rfl)))))))
  all_goals simp [Nat.shiftRight_eq_div_pow]

/-- The state that bytes reach is the one that the standard computes from their blocks. -/
theorem working_reached (bytes : List UInt8) :
    (reached bytes).state.working =
      (blocks 512 (ofBytes bytes)).foldl SecureHash.hashBlock SecureHash.initial := by
  rw [show 512 = 8 * 64 from rfl, SecureHash.blocks_ofBytes, List.foldl_map, reached, consumed,
    ← working_initial]
  have sized : ∀ block ∈ blocks 64 bytes, block.length = 64 := fun _ => length_of_mem_blocks
  generalize blocks 64 bytes = whole at sized ⊢
  generalize initial.state = state
  induction whole generalizing state with
  | nil => rfl
  | cons block rest ih =>
      obtain ⟨length, others⟩ := List.forall_mem_cons.mp sized
      rw [List.foldl_cons, List.foldl_cons, ih others, working_compress length]

theorem ofBytes_flatMap_wordBytes (words : List UInt32) :
    ofBytes (words.flatMap wordBytes) = words.flatMap fun word => digits 32 word.toNat := by
  induction words with
  | nil => rfl
  | cons word words ih =>
      rw [List.flatMap_cons, ofBytes_append, ofBytes_wordBytes, ih, List.flatMap_cons]

/-- What is finished after some bytes is the standard's digest of them. -/
theorem ofBytes_finish {sha : Sha256} {message : List UInt8}
    (at_message : sha.buffered = reached message)
    (counted : (sha.totalBytes * 8).toNat = 8 * message.length) :
    ofBytes sha.finish = SecureHash.sha256 (ofBytes message) := by
  obtain ⟨few, reaches, _⟩ := zeroBytes_spec message.length
  have lengths : ofBytes (lengthBytes (sha.totalBytes * 8)) = digits 64 (8 * message.length) := by
    rw [ofBytes_lengthBytes, counted]
  have last : ((pad 64 (sha.update [0x80])).update (lengthBytes (sha.totalBytes * 8))).state =
      (reached (message ++ [0x80] ++ List.replicate (zeroBytes message.length) 0 ++
        lengthBytes (sha.totalBytes * 8))).state :=
    congrArg Buffered.state (update_reached (pad_reached at_message (Nat.le_refl 64)) _)
  rw [finish, ofBytes_flatMap_wordBytes, last, SecureHash.sha256,
    SecureHash.padded_ofBytes few reaches lengths, ← working_reached]
  rfl

end Digests

end Sha256

/-- Pieces of less than 2^61 bytes are hashed to the standard's digest of their
concatenation, however it is cut, and the padding loop ends in at most 64 turns. -/
theorem pieces_digested (chunks : List (List UInt8)) (short : chunks.flatten.length < 2 ^ 61) :
    ofBytes (chunks.foldl Sha256.update Sha256.initial).finish =
        SecureHash.sha256 (ofBytes chunks.flatten) ∧
      (∀ others : List (List UInt8), others.flatten = chunks.flatten →
        (others.foldl Sha256.update Sha256.initial).finish =
          (chunks.foldl Sha256.update Sha256.initial).finish) ∧
      ∀ fuel, 64 ≤ fuel →
        (Sha256.pad fuel
          ((chunks.foldl Sha256.update Sha256.initial).update [0x80])).buffer.length = 56 := by
  have digested (pieces : List (List UInt8)) (same : pieces.flatten = chunks.flatten) :
      ofBytes (pieces.foldl Sha256.update Sha256.initial).finish =
        SecureHash.sha256 (ofBytes chunks.flatten) := by
    rw [← same] at short ⊢
    exact Sha256.ofBytes_finish (Sha256.buffered_chunks pieces)
      (Sha256.bitLength_chunks pieces short)
  refine ⟨digested chunks rfl, ?_, ?_⟩
  · intro others same
    exact ofBytes_injective ((digested others same).trans (digested chunks rfl).symm)
  · intro fuel enough
    exact Sha256.length_pad (Sha256.buffered_chunks chunks) enough

set_option maxRecDepth 100000 in
example : sha256 [0x61, 0x62, 0x63] =
    [ 0xba, 0x78, 0x16, 0xbf, 0x8f, 0x01, 0xcf, 0xea, 0x41, 0x41, 0x40, 0xde, 0x5d, 0xae, 0x22,
      0x23, 0xb0, 0x03, 0x61, 0xa3, 0x96, 0x17, 0x7a, 0x9c, 0xb4, 0x10, 0xff, 0x61, 0xf2, 0x00,
      0x15, 0xad ] := by decide +kernel

namespace StreamedDigests

/-- The three bytes of the standard's first example, in two pieces. -/
def pieces : List (List UInt8) := [[0x61], [0x62, 0x63]]

theorem pieces_of_three_bytes :
    ofBytes (pieces.foldl Sha256.update Sha256.initial).finish =
        SecureHash.sha256 (ofBytes pieces.flatten) ∧
      (∀ others : List (List UInt8), others.flatten = pieces.flatten →
        (others.foldl Sha256.update Sha256.initial).finish =
          (pieces.foldl Sha256.update Sha256.initial).finish) ∧
      ∀ fuel, 64 ≤ fuel →
        (Sha256.pad fuel
          ((pieces.foldl Sha256.update Sha256.initial).update [0x80])).buffer.length = 56 :=
  pieces_digested pieces (by decide)

end StreamedDigests

end PortFabric
