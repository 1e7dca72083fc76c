import PortFabric.Outcome
import PortFabric.Wire

/-!
# Persistence container

The durable state and its encoder.
-/

set_option autoImplicit false

namespace PortFabric

structure PersistedState where
  fabric : FabricId := .null
  site : SiteId := .null
  epoch : CoordinatorEpoch := .null
  engineGeneration : EngineGeneration := .null
  topology : TopologyGeneration := .null
  records : List PortRecord := []
  profiles : List PortProfile := []
  devices : List DeviceBinding := []
  publishers : List PublisherRecord := []
  deriving DecidableEq

def persistenceMagic : Text := "PORTFABC"

def persistenceFormatVersion : Nat := 1

def headerSize : Nat := 32

def payloadLimit : Nat := 256 * 1024 * 1024

/-- Validates and writes each value in turn; the first refusal ends the encoding. -/
def writeValidated {α : Type} (validate : α → Except Text Unit) (code : OutcomeCode)
    (prefixText : Text) (write : ByteWriter → α → ByteWriter) :
    ByteWriter → List α → Except Outcome ByteWriter
  | writer, [] => .ok writer
  | writer, value :: rest =>
      match validate value with
      | .error error => .error (.failure code (prefixText ++ error))
      | .ok () => writeValidated validate code prefixText write (write writer value) rest

def encodePayload (state : PersistedState) : Except Outcome ByteWriter :=
  let writer : ByteWriter := { limit := payloadLimit }
  let writer := writer.writeId state.fabric
  let writer := writer.writeId state.site
  let writer := writer.generation state.epoch
  let writer := writer.generation state.engineGeneration
  let writer := writer.generation state.topology
  if state.records.length > maxPersistedRecords then
    .error (.failure .persistenceBoundsExceeded "the record count exceeds the configured bound")
  else
  match writeValidated PortRecord.validate .invalidConfiguration "a record is inconsistent: "
      ByteWriter.writeRecord (writer.u32 state.records.length) state.records with
  | .error outcome => .error outcome
  | .ok writer =>
  if state.profiles.length > maxProfiles then
    .error (.failure .persistenceBoundsExceeded "the profile count exceeds the configured bound")
  else
  match writeValidated PortProfile.validate .invalidProfile "a profile is inconsistent: "
      ByteWriter.writeProfile (writer.u32 state.profiles.length) state.profiles with
  | .error outcome => .error outcome
  | .ok writer =>
  if state.devices.length > maxDevices then
    .error (.failure .persistenceBoundsExceeded "the device count exceeds the configured bound")
  else
  let writer := (writer.u32 state.devices.length).each state.devices ByteWriter.writeDevice
  if state.publishers.length > maxPublishers then
    .error (.failure .persistenceBoundsExceeded
      "the publisher count exceeds the configured bound")
  else
  let writer :=
    (writer.u32 state.publishers.length).each state.publishers ByteWriter.writePublisher
  if writer.ok then
    .ok writer
  else
    .error (.failure .persistenceBoundsExceeded
      "the state does not fit in the configured container bound")

/-- The header up to its own checksum. -/
def encodeHeader (payload : Text) : ByteWriter :=
  let writer : ByteWriter := { limit := headerSize }
  ((((writer.raw persistenceMagic).u32 persistenceFormatVersion).u32 headerSize).u64
    payload.length).u32 (crc32 payload).toNat

def encodePersistedState (state : PersistedState) : Except Outcome Text :=
  match encodePayload state with
  | .error outcome => .error outcome
  | .ok payload =>
      let header := encodeHeader payload.out
      if !header.ok then
        .error (.failure .internalError "the container header could not be built")
      else
        let sealed := header.u32 (crc32 header.out).toNat
        if !sealed.ok then
          .error (.failure .internalError "the container header could not be built")
        else
          .ok (sealed.out ++ payload.out)

/-- What the file system answers to one save: the path check, then the file operations. -/
structure StoreAnswers where
  path : Outcome := .success
  file : Outcome := .success "durable state written"
  deriving DecidableEq

/-- Encodes and writes a container; only the outcome of the file operations is external. -/
def savePersistedState (state : PersistedState) (answers : StoreAnswers) : Outcome :=
  if !answers.path.isOk then
    answers.path
  else
    match encodePersistedState state with
    | .error outcome => outcome
    | .ok _ => answers.file

end PortFabric
