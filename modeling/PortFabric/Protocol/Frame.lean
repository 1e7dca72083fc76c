import PortFabric.Outcome
import PortFabric.Codec
import PortFabric.Library.Checks

/-!
# Protocol frames

A fixed 32 byte header and a bounded payload. The header carries the version,
the type, the sequence number and a checksum over itself and over the payload.
-/

set_option autoImplicit false

namespace PortFabric

/-- Control protocol message types; `illegal` is a code outside the enumeration. -/
inductive MessageType where
  | hello | helloAck | registerPublisher | registerPublisherAck | mutation | mutationAck | query
  | queryAck | fencePublisher | fencePublisherAck | heartbeat | heartbeatAck | shutdown
  | errorResponse
  | illegal (raw : Fin 65522)
  deriving DecidableEq, Repr

namespace MessageType

def isValid : MessageType → Bool
  | illegal _ => false
  | _ => true

def code : MessageType → Nat
  | hello => 1 | helloAck => 2 | registerPublisher => 3 | registerPublisherAck => 4
  | mutation => 5 | mutationAck => 6 | query => 7 | queryAck => 8 | fencePublisher => 9
  | fencePublisherAck => 10 | heartbeat => 11 | heartbeatAck => 12 | shutdown => 13
  | errorResponse => 14
  | illegal raw => if raw.val = 0 then 0 else 14 + raw.val

/-- The declared type of a code. -/
def ofCode : Nat → Option MessageType
  | 1 => some hello | 2 => some helloAck | 3 => some registerPublisher
  | 4 => some registerPublisherAck | 5 => some mutation | 6 => some mutationAck
  | 7 => some query | 8 => some queryAck | 9 => some fencePublisher
  | 10 => some fencePublisherAck | 11 => some heartbeat | 12 => some heartbeatAck
  | 13 => some shutdown | 14 => some errorResponse | _ => none

def toText : MessageType → Text
  | hello => "HELLO"
  | helloAck => "HELLO_ACK"
  | registerPublisher => "REGISTER_PUBLISHER"
  | registerPublisherAck => "REGISTER_PUBLISHER_ACK"
  | mutation => "MUTATION"
  | mutationAck => "MUTATION_ACK"
  | query => "QUERY"
  | queryAck => "QUERY_ACK"
  | fencePublisher => "FENCE_PUBLISHER"
  | fencePublisherAck => "FENCE_PUBLISHER_ACK"
  | heartbeat => "HEARTBEAT"
  | heartbeatAck => "HEARTBEAT_ACK"
  | shutdown => "SHUTDOWN"
  | errorResponse => "ERROR_RESPONSE"
  | illegal _ => "UNKNOWN"

end MessageType

def frameHeaderSize : Nat := 32

def frameMagic : Text := "PFR1"

def protocolVersion : UInt16 := 1

structure FrameHeader where
  version : UInt16 := 0
  type : MessageType := .hello
  flags : UInt16 := 0
  sequence : UInt64 := 0
  payloadLength : UInt32 := 0
  payloadCrc : UInt32 := 0
  deriving DecidableEq

structure Frame where
  type : MessageType := .hello
  flags : UInt16 := 0
  sequence : UInt64 := 0
  payload : Text := []
  deriving DecidableEq

/-- The header up to its own checksum. -/
def writeFrameHeader (frame : Frame) : ByteWriter :=
  let writer : ByteWriter := { limit := frameHeaderSize }
  let writer := writer.raw frameMagic
  let writer := writer.u16 protocolVersion.toNat
  let writer := writer.u16 frame.type.code
  let writer := writer.u16 frame.flags.toNat
  let writer := writer.u16 0
  let writer := writer.u64 frame.sequence.toNat
  let writer := writer.u32 frame.payload.length
  writer.u32 (crc32 frame.payload).toNat

def encodeFrame (frame : Frame) : Except Outcome Text :=
  if !frame.type.isValid then
    .error (.failure .malformedRequest "the message type is not a legal protocol message type")
  else if frame.payload.length > maxFrameBytes then
    .error (.failure .resourceBoundExceeded
      "the frame payload exceeds the configured frame bound")
  else
    let header := writeFrameHeader frame
    if !header.ok then
      .error (.failure .internalError "the frame header could not be built")
    else
      let sealed := header.u32 (crc32 header.out).toNat
      if !sealed.ok then
        .error (.failure .internalError "the frame header could not be built")
      else
        .ok (sealed.out ++ frame.payload)

/-- The fields of a header as they are read, before any of them is checked. -/
structure FrameFields where
  magic : Text
  version : UInt16
  type : UInt16
  flags : UInt16
  reserved : UInt16
  sequence : UInt64
  payloadLength : UInt32
  payloadCrc : UInt32
  headerCrc : UInt32

def readFrameFields : ByteReader FrameFields := do
  let magic ← ByteReader.raw frameMagic.length
  let version ← ByteReader.u16
  let type ← ByteReader.u16
  let flags ← ByteReader.u16
  let reserved ← ByteReader.u16
  let sequence ← ByteReader.u64
  let payloadLength ← ByteReader.u32
  let payloadCrc ← ByteReader.u32
  let headerCrc ← ByteReader.u32
  return { magic, version, type, flags, reserved, sequence, payloadLength, payloadCrc, headerCrc }

open Checks in
def decodeFrameHeader (header : Text) : Except Outcome FrameHeader :=
  require (header.length = frameHeaderSize)
    (.failure .transportFailure "the frame header is not the expected size") <|
  require (header.take frameMagic.length = frameMagic)
    (.failure .transportFailure "the frame magic does not match") <|
  match readFrameFields.run header with
  | .error () => .error (.failure .transportFailure "the frame header is truncated")
  | .ok (fields, _) =>
  require (crc32 (header.take (frameHeaderSize - 4)) = fields.headerCrc)
    (.failure .transportFailure "the frame header integrity check failed") <|
  require (fields.version = protocolVersion)
    (.failure .transportFailure
      "the frame protocol version is not supported by this build") <|
  match MessageType.ofCode fields.type.toNat with
  | none =>
      .error (.failure .transportFailure "the frame carries an unknown message type")
  | some type =>
  require (fields.reserved = 0)
    (.failure .transportFailure "the frame carries non-zero reserved bits") <|
  refuseIf (fields.payloadLength.toNat > maxFrameBytes)
    (.failure .resourceBoundExceeded
      "the frame payload length exceeds the configured frame bound") <|
  .ok { version := fields.version, type, flags := fields.flags, sequence := fields.sequence,
        payloadLength := fields.payloadLength, payloadCrc := fields.payloadCrc }

open Checks in
def decodeFrame (bytes : Text) : Except Outcome Frame :=
  refuseIf (bytes.length < frameHeaderSize)
    (.failure .transportFailure "the frame is shorter than its header") <|
  match decodeFrameHeader (bytes.take frameHeaderSize) with
  | .error outcome => .error outcome
  | .ok header =>
  require (bytes.length = frameHeaderSize + header.payloadLength.toNat)
    (.failure .transportFailure
      "the frame length does not match the declared payload length") <|
  require (crc32 (bytes.drop frameHeaderSize) = header.payloadCrc)
    (.failure .transportFailure "the frame payload integrity check failed") <|
  .ok { type := header.type, flags := header.flags, sequence := header.sequence,
        payload := bytes.drop frameHeaderSize }

end PortFabric
