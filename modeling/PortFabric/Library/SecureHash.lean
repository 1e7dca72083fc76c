import Mathlib.Analysis.SpecialFunctions.Pow.NthRootLemmas
import Mathlib.Analysis.SpecialFunctions.Pow.Real
import Mathlib.Data.Nat.Prime.Nth
import PortFabric.Library.BitStrings
import PortFabric.Library.BlockHashing

/-!
# The secure hash standard

SHA-256 of a bit string as FIPS 180-4 states it: the constants as fractional parts
of roots of primes, the padding of a message to whole blocks of 512 bits, the
message schedule, and the 64 rounds for every block.
-/

set_option autoImplicit false

namespace SecureHash

open BitStrings BlockHashing

abbrev Word := BitVec 32

/-! ## Functions -/

def ch (x y z : Word) : Word := (x &&& y) ^^^ (~~~x &&& z)

def maj (x y z : Word) : Word := (x &&& y) ^^^ (x &&& z) ^^^ (y &&& z)

def upperSigma0 (x : Word) : Word := x.rotateRight 2 ^^^ x.rotateRight 13 ^^^ x.rotateRight 22

def upperSigma1 (x : Word) : Word := x.rotateRight 6 ^^^ x.rotateRight 11 ^^^ x.rotateRight 25

def lowerSigma0 (x : Word) : Word := x.rotateRight 7 ^^^ x.rotateRight 18 ^^^ (x >>> 3)

def lowerSigma1 (x : Word) : Word := x.rotateRight 17 ^^^ x.rotateRight 19 ^^^ (x >>> 10)

/-! ## Constants -/

/-- The first 32 bits of the fractional part. -/
noncomputable def fractionBits (root : ℝ) : Word := BitVec.ofNat 32 ⌊Int.fract root * 2 ^ 32⌋₊

/-- The fractional parts of the cube roots of the first primes. -/
noncomputable def roundConstant (t : Nat) : Word :=
  fractionBits ((Nat.nth Nat.Prime t : ℝ) ^ (3 : ℝ)⁻¹)

/-- The fractional parts of the square roots of the first primes. -/
noncomputable def initialWord (index : Nat) : Word :=
  fractionBits ((Nat.nth Nat.Prime index : ℝ) ^ (2 : ℝ)⁻¹)

/-! ## Preprocessing -/

/-- How many zeros bring a message and a one bit to 64 bits below whole blocks. -/
theorem exists_zeros (length : Nat) : ∃ zeros, (length + 1 + zeros) % 512 = 448 :=
  ⟨(959 - length % 512) % 512, by omega⟩

/-- The least such number of zeros. -/
def zeros (length : Nat) : Nat := Nat.find (exists_zeros length)

def padded (message : List Bool) : List Bool :=
  message ++ [true] ++ List.replicate (zeros message.length) false ++ digits 64 message.length

/-- The words of a block. -/
def messageWord (block : List Bool) (t : Nat) : Word :=
  BitVec.ofNat 32 (number ((block.drop (32 * t)).take 32))

/-! ## Hash computation -/

def scheduled (block : List Bool) (t : Nat) : Word :=
  if t < 16 then
    messageWord block t
  else
    lowerSigma1 (scheduled block (t - 2)) + scheduled block (t - 7) +
      lowerSigma0 (scheduled block (t - 15)) + scheduled block (t - 16)
termination_by t

structure Working where
  a : Word
  b : Word
  c : Word
  d : Word
  e : Word
  f : Word
  g : Word
  h : Word

namespace Working

def add (v w : Working) : Working :=
  ⟨v.a + w.a, v.b + w.b, v.c + w.c, v.d + w.d, v.e + w.e, v.f + w.f, v.g + w.g, v.h + w.h⟩

def bits (v : Working) : List Bool :=
  [v.a, v.b, v.c, v.d, v.e, v.f, v.g, v.h].flatMap fun word => digits 32 word.toNat

end Working

def round (v : Working) (constant word : Word) : Working :=
  let t₁ := v.h + upperSigma1 v.e + ch v.e v.f v.g + constant + word
  let t₂ := upperSigma0 v.a + maj v.a v.b v.c
  ⟨t₁ + t₂, v.a, v.b, v.c, v.d + t₁, v.e, v.f, v.g⟩

/-- The working variables after some rounds. -/
noncomputable def working (block : List Bool) (start : Working) : Nat → Working
  | 0 => start
  | t + 1 => round (working block start t) (roundConstant t) (scheduled block t)

noncomputable def hashBlock (previous : Working) (block : List Bool) : Working :=
  previous.add (working block previous 64)

noncomputable def initial : Working :=
  ⟨initialWord 0, initialWord 1, initialWord 2, initialWord 3, initialWord 4, initialWord 5,
    initialWord 6, initialWord 7⟩

/-- The digest of a message of less than 2^64 bits. -/
noncomputable def sha256 (message : List Bool) : List Bool :=
  ((blocks 512 (padded message)).foldl hashBlock initial).bits

section Constants

/-- The first bits of a fraction are the lowest digits of a whole part. -/
theorem fractionBits_eq {root : ℝ} (nonnegative : 0 ≤ root) :
    fractionBits root = BitVec.ofNat 32 ⌊root * 2 ^ 32⌋₊ := by
  have whole : root * 2 ^ 32 = Int.fract root * 2 ^ 32 + (⌊root⌋₊ * 2 ^ 32 : Nat) := by
    have split := Int.floor_add_fract root
    rw [← natCast_floor_eq_intCast_floor nonnegative] at split
    push_cast
    linarith
  have fraction : 0 ≤ Int.fract root * 2 ^ 32 :=
    mul_nonneg (Int.fract_nonneg root) (by positivity)
  rw [whole, Nat.floor_add_natCast fraction, fractionBits]
  apply BitVec.eq_of_toNat_eq
  rw [BitVec.toNat_ofNat, BitVec.toNat_ofNat, Nat.add_mul_mod_self_right]

/-- The first bits behind the point of a root come from the root of an integer. -/
theorem fractionBits_root {degree : Nat} (positive : degree ≠ 0) (value : Nat) :
    fractionBits ((value : ℝ) ^ (degree : ℝ)⁻¹) =
      BitVec.ofNat 32 (Nat.nthRoot degree (value * 2 ^ (32 * degree))) := by
  have nonnegative : (0 : ℝ) ≤ (value : ℝ) ^ (degree : ℝ)⁻¹ := by positivity
  have scaled : 0 ≤ (value : ℝ) ^ (degree : ℝ)⁻¹ * 2 ^ 32 := by positivity
  -- Both bounds of the integer root are bounds of the scaled root, raised to the degree.
  have power : ((value : ℝ) ^ (degree : ℝ)⁻¹ * 2 ^ 32) ^ degree =
      (value * 2 ^ (32 * degree) : Nat) := by
    rw [mul_pow, Real.rpow_inv_natCast_pow (Nat.cast_nonneg _) positive, ← pow_mul]
    push_cast
    rfl
  rw [fractionBits_eq nonnegative]
  congr 1
  rw [Nat.floor_eq_iff scaled]
  constructor
  · rw [← pow_le_pow_iff_left₀ (Nat.cast_nonneg _) scaled positive, power]
    exact_mod_cast Nat.pow_nthRoot_le_iff.mpr (.inl positive)
  · rw [← pow_lt_pow_iff_left₀ scaled (by positivity) positive, power]
    exact_mod_cast Nat.lt_pow_nthRoot_add_one positive _

/-- The values below a bound that satisfy a predicate are its first ones. -/
theorem map_nth_range {p : Nat → Prop} [DecidablePred p] (bound : Nat) :
    (List.range (Nat.count p bound)).map (Nat.nth p) =
      (List.range bound).filter fun value => decide (p value) := by
  induction bound with
  | zero => rfl
  | succ bound ih =>
      rw [List.range_succ, List.filter_append, ← ih, Nat.count_succ]
      by_cases satisfied : p bound
      · rw [if_pos satisfied, List.range_succ, List.map_append, List.map_singleton,
          Nat.nth_count satisfied]
        simp [satisfied]
      · simp [satisfied]

/-- A number below a square is prime when no smaller number below the root divides it. -/
theorem prime_iff_of_lt {value root : Nat} (below : value < root * root) :
    Nat.Prime value ↔
      2 ≤ value ∧ ∀ divisor < root, 2 ≤ divisor → divisor < value → ¬divisor ∣ value := by
  constructor
  · intro prime
    refine ⟨prime.two_le, ?_⟩
    intro divisor _ proper less divides
    rcases (Nat.dvd_prime prime).mp divides with one | whole
    · omega
    · omega
  · intro given
    rcases given with ⟨proper, free⟩
    refine Nat.prime_def_le_sqrt.mpr ⟨proper, ?_⟩
    intro divisor two within
    have square : divisor * divisor ≤ value := Nat.le_sqrt.mp within
    refine free divisor ?_ two ?_
    · by_contra large
      exact absurd (Nat.mul_le_mul (Nat.not_lt.mp large) (Nat.not_lt.mp large)) (by omega)
    · nlinarith

/-- The constants that the primes below a bound give, as numbers that can be computed. -/
theorem map_fractionBits_prime {degree bound : Nat} {primes : List Nat} (positive : degree ≠ 0)
    (listed : ((List.range bound).filter fun value => decide (Nat.Prime value)) = primes) :
    (List.range primes.length).map (fun index =>
        fractionBits ((Nat.nth Nat.Prime index : ℝ) ^ (degree : ℝ)⁻¹)) =
      primes.map fun prime =>
        BitVec.ofNat 32 (Nat.nthRoot degree (prime * 2 ^ (32 * degree))) := by
  rw [← listed, ← map_nth_range, List.length_map, List.length_range, List.map_map]
  apply List.map_congr_left
  intro index _
  exact fractionBits_root positive _

end Constants

section Schedule

theorem scheduled_lt {block : List Bool} {t : Nat} (first : t < 16) :
    scheduled block t = messageWord block t := by
  rw [scheduled, if_pos first]

theorem scheduled_of_le {block : List Bool} {t : Nat} (later : 16 ≤ t) :
    scheduled block t =
      lowerSigma1 (scheduled block (t - 2)) + scheduled block (t - 7) +
        lowerSigma0 (scheduled block (t - 15)) + scheduled block (t - 16) := by
  rw [scheduled, if_neg (Nat.not_lt.mpr later)]

/-- The rounds take the constants and the schedule in order. -/
theorem working_eq_foldl (block : List Bool) (start : Working) (count : Nat) :
    working block start count =
      (((List.range count).map roundConstant).zip ((List.range count).map (scheduled block))).foldl
        (fun v pair => round v pair.1 pair.2) start := by
  rw [List.zip_map']
  induction count with
  | zero => rfl
  | succ count ih =>
      rw [List.range_succ, List.map_append, List.foldl_append, ← ih]
      rfl

end Schedule

section Bytes

/-- The words of a block are those of its bytes. -/
theorem messageWord_zero (b₀ b₁ b₂ b₃ : UInt8) (rest : List UInt8) :
    messageWord (ofBytes (b₀ :: b₁ :: b₂ :: b₃ :: rest)) 0 =
      BitVec.ofNat 32
        (((b₀.toNat * 2 ^ 8 + b₁.toNat) * 2 ^ 8 + b₂.toNat) * 2 ^ 8 + b₃.toNat) := by
  have taken : ((ofBytes (b₀ :: b₁ :: b₂ :: b₃ :: rest)).drop (32 * 0)).take 32 =
      ofBytes [b₀, b₁, b₂, b₃] := take_ofBytes 4 _
  have value : number (ofBytes [b₀, b₁, b₂, b₃]) =
      ((b₀.toNat * 2 ^ 8 + b₁.toNat) * 2 ^ 8 + b₂.toNat) * 2 ^ 8 + b₃.toNat := by
    simp only [number_ofBytes_cons, ofBytes_nil, number_nil, List.length_cons, List.length_nil]
    ring
  rw [messageWord, taken, value]

theorem messageWord_succ (b₀ b₁ b₂ b₃ : UInt8) (rest : List UInt8) (t : Nat) :
    messageWord (ofBytes (b₀ :: b₁ :: b₂ :: b₃ :: rest)) (t + 1) =
      messageWord (ofBytes rest) t := by
  have shift : 32 * (t + 1) = 8 * (4 + 4 * t) := by ring
  have place : 32 * t = 8 * (4 * t) := by ring
  rw [messageWord, messageWord, shift, place, drop_ofBytes, drop_ofBytes, ← List.drop_drop]
  rfl

/-- The blocks of the bits are the bits of the blocks. -/
theorem blocks_ofBytes (size : Nat) (bytes : List UInt8) :
    blocks (8 * size) (ofBytes bytes) = (blocks size bytes).map ofBytes := by
  rw [blocks, blocks, length_ofBytes, Nat.mul_div_mul_left _ _ (by decide), List.map_map]
  apply List.map_congr_left
  intro index _
  rw [Nat.mul_assoc, drop_ofBytes, take_ofBytes]
  rfl

/-- A message of bytes is padded by a byte with the highest bit, by zero bytes and by the
bytes of its length. -/
theorem padded_ofBytes {bytes lengthBytes : List UInt8} {zeroBytes : Nat}
    (few : zeroBytes < 64) (reaches : (bytes.length + 1 + zeroBytes) % 64 = 56)
    (counted : ofBytes lengthBytes = digits 64 (8 * bytes.length)) :
    padded (ofBytes bytes) =
      ofBytes (bytes ++ [0x80] ++ List.replicate zeroBytes 0 ++ lengthBytes) := by
  have least : zeros (8 * bytes.length) = 7 + 8 * zeroBytes := by
    rw [zeros, Nat.find_eq_iff]
    refine ⟨by omega, ?_⟩
    intro fewer less
    omega
  have marked : ofBytes [0x80] = true :: List.replicate 7 false := by decide
  rw [padded, length_ofBytes, least, ofBytes_append, ofBytes_append, ofBytes_append,
    ofBytes_replicate, counted, marked, ← List.replicate_append_replicate]
  simp only [List.append_assoc, List.cons_append, List.nil_append]

end Bytes

end SecureHash
