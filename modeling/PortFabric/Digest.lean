import PortFabric.Record
import PortFabric.Sha256

/-!
# Content digests

Digests of byte strings and of length-prefixed named fields.
-/

set_option autoImplicit false

namespace PortFabric

/-- The 32 bytes of a content digest. -/
abbrev Digest := List UInt8

def Digest.zero : Digest := List.replicate 32 0

def hexDigit (value : UInt8) : UInt8 :=
  if value < 10 then 0x30 + value else 0x57 + value

def Digest.toHex (digest : Digest) : Text :=
  digest.flatMap fun (byte : UInt8) => [hexDigit (byte >>> 4), hexDigit (byte &&& 0x0f)]

def digestBytes (bytes : Text) : Digest :=
  sha256 bytes

/-- The value of sixteen hexadecimal digits. -/
def foldHex (digits : Text) : UInt64 :=
  digits.foldl
    (fun (value : UInt64) digit =>
      (value <<< 4) |||
        (if digit ≥ 0x30 && digit ≤ 0x39 then digit - 0x30 else digit - 0x61 + 10).toUInt64) 0

/-- The first 64 bits of a digest, read from its rendering; zero is never produced. -/
def payloadDigestOf (digest : Digest) : UInt64 :=
  if foldHex (digest.toHex.take 16) = 0 then 1 else foldHex (digest.toHex.take 16)

theorem payloadDigestOf_ne_zero (digest : Digest) : payloadDigestOf digest ≠ 0 := by
  unfold payloadDigestOf
  split
  · decide
  · assumption

def littleEndian (width value : Nat) : List UInt8 :=
  (List.range width).map fun index => UInt8.ofNat (value >>> (8 * index))

/-- Frames of named fields, waiting to be hashed. -/
structure DigestBuilder where
  buffer : Text := []

namespace DigestBuilder

def addField (builder : DigestBuilder) (name value : Text) : DigestBuilder where
  buffer := builder.buffer ++ littleEndian 4 name.length ++ name ++
    littleEndian 8 value.length ++ value

def addU64 (builder : DigestBuilder) (name : Text) (value : Nat) : DigestBuilder :=
  builder.addField name (formatU64 value)

def addBool (builder : DigestBuilder) (name : Text) (value : Bool) : DigestBuilder :=
  builder.addField name (if value then "1" else "0")

def addFields (builder : DigestBuilder) (fields : List (Text × Text)) : DigestBuilder :=
  fields.foldl (fun builder field => builder.addField field.1 field.2) builder

def finish (builder : DigestBuilder) : Digest :=
  sha256 builder.buffer

end DigestBuilder

/-- Semantic digest of a committed configuration: bookkeeping fields are left out. -/
def digestConfiguration (configuration : PortConfiguration) : Digest :=
  (DigestBuilder.addFields {} (configuration.canonicalFields.filter fun field =>
    field.1 ≠ text "provenance_attempt" && field.1 ≠ text "evidence_generation")).finish

def digestRecord (record : PortRecord) : Digest :=
  let builder : DigestBuilder := {}
  let builder := builder.addField "port" record.port.value
  let builder := builder.addField "parent_device" record.parentDevice.value
  let builder := builder.addField "lifecycle" record.lifecycle.toText
  let builder := builder.addField "drift" record.drift.toText
  let builder := builder.addBool "configured" record.configuration.isSome
  let builder :=
    match record.configuration with
    | some configuration =>
        builder.addField "configuration" (digestConfiguration configuration).toHex
    | none => builder
  let builder := builder.addField "ownership"
    (match record.ownership with
     | some ownership => ownership.toText
     | none => [])
  let builder := builder.addField "capability_generation"
    record.capability.generation.formatOrEmpty
  let builder := builder.addField "capability_source" record.capability.source
  let builder := builder.addField "applied" record.applied.outcome.toText
  let builder := builder.addBool "applied_verified" record.applied.verified
  let builder := builder.addFields
    (record.generations.canonicalFields.map fun field => (text "generation." ++ field.1, field.2))
  let builder := builder.addField "last_mutation_attempt" record.lastMutation.attempt.value
  let builder := builder.addU64 "last_mutation_payload" record.lastMutation.payloadDigest.toNat
  let builder := builder.addField "status_reason" record.statusReason
  builder.finish

end PortFabric
