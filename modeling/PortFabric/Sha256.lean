import PortFabric.Text

/-!
# SHA-256

The hash behind every digest: block buffering, message schedule, compression and
padding.
-/

set_option autoImplicit false

namespace PortFabric

structure Sha256State where
  a : UInt32
  b : UInt32
  c : UInt32
  d : UInt32
  e : UInt32
  f : UInt32
  g : UInt32
  h : UInt32
  deriving DecidableEq

/-- A hasher in use; none is used after `finish`, so the flag that silences it is left out. -/
structure Sha256 where
  state : Sha256State
  /-- Bytes of the block that is not complete yet. -/
  buffer : List UInt8
  totalBytes : UInt64
  deriving DecidableEq

namespace Sha256

def roundConstants : List UInt32 :=
  [ 0x428a2f98, 0x71374491, 0xb5c0fbcf, 0xe9b5dba5, 0x3956c25b, 0x59f111f1, 0x923f82a4,
    0xab1c5ed5, 0xd807aa98, 0x12835b01, 0x243185be, 0x550c7dc3, 0x72be5d74, 0x80deb1fe,
    0x9bdc06a7, 0xc19bf174, 0xe49b69c1, 0xefbe4786, 0x0fc19dc6, 0x240ca1cc, 0x2de92c6f,
    0x4a7484aa, 0x5cb0a9dc, 0x76f988da, 0x983e5152, 0xa831c66d, 0xb00327c8, 0xbf597fc7,
    0xc6e00bf3, 0xd5a79147, 0x06ca6351, 0x14292967, 0x27b70a85, 0x2e1b2138, 0x4d2c6dfc,
    0x53380d13, 0x650a7354, 0x766a0abb, 0x81c2c92e, 0x92722c85, 0xa2bfe8a1, 0xa81a664b,
    0xc24b8b70, 0xc76c51a3, 0xd192e819, 0xd6990624, 0xf40e3585, 0x106aa070, 0x19a4c116,
    0x1e376c08, 0x2748774c, 0x34b0bcb5, 0x391c0cb3, 0x4ed8aa4a, 0x5b9cca4f, 0x682e6ff3,
    0x748f82ee, 0x78a5636f, 0x84c87814, 0x8cc70208, 0x90befffa, 0xa4506ceb, 0xbef9a3f7,
    0xc67178f2 ]

def rotr (value count : UInt32) : UInt32 :=
  (value >>> count) ||| (value <<< (32 - count))

def bigSigma0 (value : UInt32) : UInt32 := rotr value 2 ^^^ rotr value 13 ^^^ rotr value 22

def bigSigma1 (value : UInt32) : UInt32 := rotr value 6 ^^^ rotr value 11 ^^^ rotr value 25

def smallSigma0 (value : UInt32) : UInt32 := rotr value 7 ^^^ rotr value 18 ^^^ (value >>> 3)

def smallSigma1 (value : UInt32) : UInt32 := rotr value 17 ^^^ rotr value 19 ^^^ (value >>> 10)

def initial : Sha256 where
  state := ⟨0x6a09e667, 0xbb67ae85, 0x3c6ef372, 0xa54ff53a, 0x510e527f, 0x9b05688c, 0x1f83d9ab,
    0x5be0cd19⟩
  buffer := []
  totalBytes := 0

/-- Big-endian words of a block. -/
def blockWords : List UInt8 → List UInt32
  | b₀ :: b₁ :: b₂ :: b₃ :: rest =>
      ((b₀.toUInt32 <<< 24) ||| (b₁.toUInt32 <<< 16) ||| (b₂.toUInt32 <<< 8) ||| b₃.toUInt32) ::
        blockWords rest
  | _ => []

/-- Appends `count` schedule words; the words are kept newest first. -/
def extendSchedule : Nat → List UInt32 → List UInt32
  | 0, words => words
  | count + 1, words =>
      extendSchedule count
        ((smallSigma1 (words.getD 1 0) + words.getD 6 0 + smallSigma0 (words.getD 14 0) +
          words.getD 15 0) :: words)

def schedule (block : List UInt8) : List UInt32 :=
  (extendSchedule 48 (blockWords block).reverse).reverse

def round (s : Sha256State) (constant word : UInt32) : Sha256State :=
  let temp1 := s.h + bigSigma1 s.e + ((s.e &&& s.f) ^^^ (~~~s.e &&& s.g)) + constant + word
  let temp2 := bigSigma0 s.a + ((s.a &&& s.b) ^^^ (s.a &&& s.c) ^^^ (s.b &&& s.c))
  ⟨temp1 + temp2, s.a, s.b, s.c, s.d + temp1, s.e, s.f, s.g⟩

def rounds : List UInt32 → List UInt32 → Sha256State → Sha256State
  | constant :: constants, word :: words, s => rounds constants words (round s constant word)
  | _, _, s => s

def compress (s : Sha256State) (block : List UInt8) : Sha256State :=
  let t := rounds roundConstants (schedule block) s
  ⟨s.a + t.a, s.b + t.b, s.c + t.c, s.d + t.d, s.e + t.e, s.f + t.f, s.g + t.g, s.h + t.h⟩

/-- The buffering loop of `update`; every turn takes at least one byte. -/
def absorb : Nat → Sha256 → List UInt8 → Sha256
  | 0, sha, _ => sha
  | fuel + 1, sha, bytes =>
      if bytes.isEmpty then
        sha
      else
        let space := 64 - sha.buffer.length
        let filled := sha.buffer ++ bytes.take space
        let next :=
          if filled.length = 64 then
            { sha with state := compress sha.state filled, buffer := [] }
          else
            { sha with buffer := filled }
        absorb fuel next (bytes.drop space)

def update (sha : Sha256) (bytes : List UInt8) : Sha256 :=
  absorb bytes.length { sha with totalBytes := sha.totalBytes + UInt64.ofNat bytes.length } bytes

/-- The padding loop of `finish`: zero bytes up to the length field. -/
def pad : Nat → Sha256 → Sha256
  | 0, sha => sha
  | fuel + 1, sha => if sha.buffer.length = 56 then sha else pad fuel (sha.update [0])

def wordBytes (word : UInt32) : List UInt8 :=
  [(word >>> 24).toUInt8, (word >>> 16).toUInt8, (word >>> 8).toUInt8, word.toUInt8]

def lengthBytes (bitLength : UInt64) : List UInt8 :=
  ([56, 48, 40, 32, 24, 16, 8, 0] : List UInt64).map fun shift => (bitLength >>> shift).toUInt8

def finish (sha : Sha256) : List UInt8 :=
  let bitLength := sha.totalBytes * 8
  let s := ((pad 64 (sha.update [0x80])).update (lengthBytes bitLength)).state
  [s.a, s.b, s.c, s.d, s.e, s.f, s.g, s.h].flatMap wordBytes

theorem length_finish (sha : Sha256) : sha.finish.length = 32 := rfl

end Sha256

def sha256 (bytes : Text) : List UInt8 :=
  (Sha256.initial.update bytes).finish

end PortFabric
