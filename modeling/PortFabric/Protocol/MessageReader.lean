import PortFabric.Protocol.Message

/-!
# Protocol message decoding

Every failed read is reported as the malformed part of the message. Some
messages also refuse trailing bytes.
-/

set_option autoImplicit false

namespace PortFabric

/-- A message decoder reports an outcome. -/
abbrev MessageReader := Formats.Parser Outcome UInt8

namespace MessageReader

/-- The field, or the text that names the malformed part. -/
def field {α : Type} (reader : ByteReader α) (message : Text) : MessageReader α :=
  reader.required (.failure .transportFailure message)

/-- The whole input is the message. -/
def whole {α : Type} (reader : MessageReader α) (bytes : Text) (trailing : Text) :
    Except Outcome α :=
  match reader.run bytes with
  | .error outcome => .error outcome
  | .ok (value, rest) =>
      if rest.isEmpty then .ok value else .error (.failure .transportFailure trailing)

/-- The message is a prefix of the input. -/
def leading {α : Type} (reader : MessageReader α) (bytes : Text) : Except Outcome α :=
  match reader.run bytes with
  | .error outcome => .error outcome
  | .ok (value, _) => .ok value

end MessageReader

namespace ByteReader

def readDetail : ByteReader (Text × Text) := do
  let key ← text maxNameLength
  let value ← text maxDescriptionLength
  return (key, value)

/-- The fields of an outcome, before the message and the details are made single-line. -/
def readOutcomeFields : ByteReader ReceivedOutcome := do
  let code ← u8
  let message ← text maxDescriptionLength
  let details ← readList maxOutcomeDetails readDetail
  return { code, message, details }

def readOutcome : ByteReader ReceivedOutcome := do
  let fields ← readOutcomeFields
  return fields.details.foldl ReceivedOutcome.withDetail
    (ReceivedOutcome.withMessage { code := fields.code } fields.message)

end ByteReader

open ByteReader MessageReader

def readHello : MessageReader HelloMessage := do
  let version ← field u16 "the hello message is malformed"
  if version ≠ 1 then
    throw (.failure .transportFailure "the peer speaks an unsupported protocol version")
  let publisher ← field readStrongId "the hello message is malformed"
  let boot ← field readStrongId "the hello message is malformed"
  let epoch ← field generation "the hello message is malformed"
  let role ← field (ByteReader.text maxNameLength) "the hello message is malformed"
  return { version, publisher, boot, epoch, role }

def decodeHello (bytes : Text) : Except Outcome HelloMessage :=
  readHello.whole bytes "the hello message carries trailing bytes"

def readHelloAck : MessageReader HelloAckMessage := do
  let accepted ← field boolean "the hello acknowledgement is malformed"
  let epoch ← field generation "the hello acknowledgement is malformed"
  let detail ← field (ByteReader.text maxDescriptionLength) "the hello acknowledgement is malformed"
  return { accepted, epoch, detail }

def decodeHelloAck (bytes : Text) : Except Outcome HelloAckMessage :=
  readHelloAck.leading bytes

def readRegisterPublisher : MessageReader RegisterPublisherMessage := do
  let publisher ← field readStrongId "the publisher registration is malformed"
  let boot ← field readStrongId "the publisher registration is malformed"
  let epoch ← field generation "the publisher registration is malformed"
  return { publisher, boot, epoch }

def decodeRegisterPublisher (bytes : Text) : Except Outcome RegisterPublisherMessage :=
  readRegisterPublisher.leading bytes

def readFence : MessageReader FenceMessage := do
  let publisher ← field readStrongId "the fence message is malformed"
  let boot ← field readStrongId "the fence message is malformed"
  let detail ← field (ByteReader.text maxDescriptionLength) "the fence message is malformed"
  return { publisher, boot, detail }

def decodeFence (bytes : Text) : Except Outcome FenceMessage :=
  readFence.leading bytes

def readMutation : MessageReader PortMutationMessage := do
  let kind ← field u8 "the mutation message is malformed"
  let authority ← field readAuthority "the authority context is malformed"
  let port ← field readStrongId "the port identity is malformed"
  let parentDevice ← field readStrongId "the parent device is malformed"
  let deviceGeneration ← field generation "the mutation message is malformed"
  let configuration ← (field boolean "the mutation message is malformed").optional
    (field readConfiguration "the configuration is malformed")
  let administrativeOp ← field u8 "the mutation message is malformed"
  let profile ← field readStrongId "the profile identity is malformed"
  let profileGeneration ← field generation "the mutation message is malformed"
  let release ← field boolean "the mutation message is malformed"
  let capability ← field readCapabilityBinding "the capability binding is malformed"
  let detail ← field (ByteReader.text maxDescriptionLength) "the mutation message is malformed"
  let ownerKind ← field u8 "the mutation message is malformed"
  let owner ← field readStrongId "the owner identity is malformed"
  let exclusive ← field boolean "the mutation message is malformed"
  let evidence ← field readApplied "the applied evidence is malformed"
  let drift ← field u8 "the mutation message is malformed"
  let provenanceKind ← field u8 "the mutation message is malformed"
  let provenanceSource ← field (ByteReader.text maxNameLength) "the mutation message is malformed"
  return { kind, authority, port, parentDevice, deviceGeneration, configuration,
           administrativeOp, profile, profileGeneration, release, capability, detail, ownerKind,
           owner, exclusive, evidence, drift, provenanceKind, provenanceSource }

def decodeMutation (bytes : Text) : Except Outcome PortMutationMessage :=
  readMutation.whole bytes "the mutation message carries trailing bytes"

/-- The selector of a query or of its response. -/
def readQueryKind (malformed : Text) (illegal : Outcome) : MessageReader QueryKind :=
  (field u8 malformed).convert (fun raw => QueryKind.declared[raw.toNat]?) illegal

def readQuery : MessageReader QueryMessage := do
  let kind ← readQueryKind "the query message is malformed"
    (.failure .malformedRequest "the query selector is not a legal value")
  let port ← field readStrongId "the query message is malformed"
  let device ← field readStrongId "the query message is malformed"
  let owner ← field readStrongId "the query message is malformed"
  let profile ← field readStrongId "the query message is malformed"
  let lifecycle ← field u8 "the query message is malformed"
  let administrative ← field u8 "the query message is malformed"
  match PortLifecycle.ofByte lifecycle.toNat, AdministrativeState.ofByte administrative.toNat with
  | some lifecycle, some administrative =>
      return { kind, port, device, owner, profile, lifecycle, administrative }
  | _, _ =>
      throw (.failure .malformedRequest
        "the query carries an invalid lifecycle or administrative state")

def decodeQuery (bytes : Text) : Except Outcome QueryMessage :=
  readQuery.leading bytes

/-- The value of a lower case hexadecimal digit. -/
def hexValue (digit : UInt8) : Option UInt8 :=
  if 0x30 ≤ digit ∧ digit ≤ 0x39 then some (digit - 0x30)
  else if 0x61 ≤ digit ∧ digit ≤ 0x66 then some (digit - 0x61 + 10)
  else none

/-- The bytes of a rendering with two digits each. -/
def parseHex : Text → Option Digest
  | [] => some []
  | [_] => none
  | high :: low :: rest => do
      let high ← hexValue high
      let low ← hexValue low
      return ((high <<< 4) ||| low) :: (← parseHex rest)

def readResponseDigest : MessageReader Digest :=
  (field (ByteReader.text 64) "the query response outcome is malformed").convert
    (fun digits => if digits.length ≠ 64 then none else parseHex digits)
    (.failure .transportFailure "the response digest is malformed")

/-- A count out of bounds is a malformed response, an element is malformed on its own. -/
def readResponseList {α : Type} (limit : Nat) (reader : ByteReader α) (message : Text) :
    MessageReader (List α) := do
  (field reader message).times
    (← field (readBoundedCount limit) "the query response outcome is malformed")

def readQueryResponse : MessageReader (QueryResponse ReceivedOutcome) := do
  let outcome ← field readOutcome "the query response outcome is malformed"
  let kind ← readQueryKind "the query response outcome is malformed"
    (.failure .transportFailure "the query response outcome is malformed")
  let ports ← readResponseList maxSnapshotPorts readStrongId "a port identity is malformed"
  let records ← readResponseList maxSnapshotPorts readRecord "a port record is malformed"
  let profiles ← readResponseList maxProfiles readProfile "a profile is malformed"
  let devices ← readResponseList maxDevices readDevice "a device binding is malformed"
  let content ← field (ByteReader.text maxQueryTextBytes) "the query response outcome is malformed"
  let engineGeneration ← field generation "the query response outcome is malformed"
  let epoch ← field generation "the query response outcome is malformed"
  let digest ← readResponseDigest
  return { outcome, kind, ports, records, profiles, devices, text := content,
           generation := engineGeneration, epoch, digest }

def decodeQueryResponse (bytes : Text) : Except Outcome (QueryResponse ReceivedOutcome) :=
  readQueryResponse.whole bytes "the query response carries trailing bytes"

def decodeOutcome (bytes : Text) : Except Outcome ReceivedOutcome :=
  MessageReader.leading (field readOutcome "the outcome is malformed") bytes

end PortFabric
