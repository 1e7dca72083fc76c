import PortFabric.Persistence
import PortFabric.WireReader

/-!
# Container decoding

The decoder of the durable state: the header with its two checksums first, then
the payload, of which every identity may occur only once.
-/

set_option autoImplicit false

namespace PortFabric

/-- The fields of a container header as they are read, before any of them is checked. -/
structure ContainerFields where
  magic : Text
  version : UInt32
  headerSize : UInt32
  payloadLength : UInt64
  payloadCrc : UInt32
  headerCrc : UInt32

def readContainerFields : ByteReader ContainerFields := do
  let magic ← ByteReader.raw persistenceMagic.length
  let version ← ByteReader.u32
  let headerSize ← ByteReader.u32
  let payloadLength ← ByteReader.u64
  let payloadCrc ← ByteReader.u32
  let headerCrc ← ByteReader.u32
  return { magic, version, headerSize, payloadLength, payloadCrc, headerCrc }

/-- The container is damaged. -/
def corrupted (message : Text) : Outcome := .failure .persistenceCorruption message

open Checks in
/-- The payload behind a header that belongs to it. -/
def decodeContainer (bytes : Text) : Except Outcome Text :=
  refuseIf (bytes.length < headerSize)
    (corrupted "the container is shorter than its header") <|
  require (bytes.take persistenceMagic.length = persistenceMagic)
    (corrupted "the container magic does not match") <|
  match readContainerFields.run (bytes.take headerSize) with
  | .error () => .error (corrupted "the container header is truncated")
  | .ok (fields, _) =>
  require (fields.headerSize.toNat = headerSize)
    (corrupted "the container header size is not the expected size") <|
  require (crc32 (bytes.take (headerSize - 4)) = fields.headerCrc)
    (corrupted "the container header integrity check failed") <|
  require (fields.version.toNat = persistenceFormatVersion)
    (.failure .persistenceVersionUnsupported
      "the container format version is not supported by this build") <|
  refuseIf (fields.payloadLength.toNat > maxPersistenceBytes)
    (.failure .persistenceBoundsExceeded
      "the container payload exceeds the configured bound") <|
  require (fields.payloadLength.toNat = bytes.length - headerSize)
    (corrupted "the container payload length does not match the container size") <|
  require (crc32 (bytes.drop headerSize) = fields.payloadCrc)
    (corrupted "the container payload integrity check failed") <|
  .ok (bytes.drop headerSize)

/-- A decoder of container parts reports an outcome. -/
abbrev StateReader := Formats.Parser Outcome UInt8

namespace StateReader

open ByteReader

def field {α : Type} (reader : ByteReader α) (message : Text) : StateReader α :=
  reader.required (corrupted message)

/-- A counted list of values, no two of which share a key. -/
def readDistinct {α : Type} (limit : Nat) (reader : ByteReader α) (clash : α → α → Bool)
    (bounds malformed duplicate : Text) : StateReader (List α) := do
  (field reader malformed).distinct clash (.failure .duplicateRecord duplicate)
    (← (readBoundedCount limit).required (.failure .persistenceBoundsExceeded bounds)) []

def readState : StateReader PersistedState := do
  let fabric ← field readStrongId "the fabric identity is malformed"
  let site ← field readStrongId "the site identity is malformed"
  let epoch ← field generation "the coordinator epoch is missing"
  let engineGeneration ← field generation "the engine generation is missing"
  let topology ← field generation "the topology generation is missing"
  let records ← readDistinct maxPersistedRecords readRecord
    (fun existing record => existing.port = record.port)
    "the record count is out of bounds" "a port record could not be decoded"
    "the container carries a duplicate port identity"
  let profiles ← readDistinct maxProfiles readProfile
    (fun existing profile =>
      existing.id = profile.id && existing.generation = profile.generation)
    "the profile count is out of bounds" "a profile record could not be decoded"
    "the container carries a duplicate profile generation"
  let devices ← readDistinct maxDevices readDevice
    (fun existing device => existing.device = device.device)
    "the device count is out of bounds" "a device binding could not be decoded"
    "the container carries a duplicate device binding"
  let publishers ← readDistinct maxPublishers readPublisher
    (fun existing publisher =>
      existing.publisher = publisher.publisher && existing.boot = publisher.boot)
    "the publisher count is out of bounds" "a publisher record could not be decoded"
    "the container carries a duplicate publisher incarnation"
  return { fabric, site, epoch, engineGeneration, topology, records, profiles, devices,
           publishers }

end StateReader

def decodePersistedState (bytes : Text) : Except Outcome PersistedState :=
  match decodeContainer bytes with
  | .error outcome => .error outcome
  | .ok payload =>
  match StateReader.readState.run payload with
  | .error outcome => .error outcome
  | .ok (state, rest) =>
      if rest.isEmpty then .ok state
      else .error (corrupted "the container carries trailing bytes")

end PortFabric
