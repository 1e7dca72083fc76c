import PortFabric.Protocol.Frame
import PortFabric.Protocol.MessageReader

/-!
# Receiving frames

Both ends receive the header first and then the payload it announces, in as
many pieces as the transport delivers them.
-/

set_option autoImplicit false

namespace PortFabric

/-- What one receive may find: bytes that have arrived, or a transport error. -/
inductive Arrival where
  | bytes (chunk : Text)
  | failed (error : Text)
  deriving DecidableEq

/-- A connection, as what arrives on it until the peer closes it. -/
abbrev Connection := List Arrival

/-- Receives until the buffer is full; an empty receive is the end of the stream. -/
def receiveExact (closed : Text) : Nat → Connection → Except Text (Text × Connection)
  | 0, connection => .ok ([], connection)
  | _ + 1, [] => .error closed
  | _ + 1, .failed error :: _ => .error error
  | length + 1, .bytes chunk :: rest =>
      if chunk.isEmpty then
        .error closed
      else if chunk.length > length + 1 then
        .ok (chunk.take (length + 1), .bytes (chunk.drop (length + 1)) :: rest)
      else
        match receiveExact closed (length + 1 - chunk.length) rest with
        | .error error => .error error
        | .ok (more, left) => .ok (chunk ++ more, left)

/-- Why the server ends a session instead of handling a frame. -/
inductive ReceiveFailure where
  | lost (error : Text)
  /-- The peer is told before the session ends. -/
  | malformed (message : Text)
  deriving DecidableEq

open Checks

/-- The payload of a header; an announced length of zero leaves nothing to receive. -/
def receivePayload (closed : Text) (header : FrameHeader) (connection : Connection) :
    Except ReceiveFailure (Text × Connection) :=
  if header.payloadLength.toNat > 0 then
    match receiveExact closed header.payloadLength.toNat connection with
    | .error error => .error (.lost error)
    | .ok (payload, rest) =>
        require (crc32 payload = header.payloadCrc)
          (.malformed "the frame payload integrity check failed") <|
        .ok (payload, rest)
  else
    .ok ([], connection)

/-- One frame of a connection, with the message for a stream that ends too early. -/
def receive (closed : Text) (connection : Connection) :
    Except ReceiveFailure (Frame × Connection) :=
  match receiveExact closed frameHeaderSize connection with
  | .error error => .error (.lost error)
  | .ok (bytes, rest) =>
  match decodeFrameHeader bytes with
  | .error outcome => .error (.malformed outcome.message)
  | .ok header =>
  match receivePayload closed header rest with
  | .error failure => .error failure
  | .ok (payload, rest) =>
      .ok ({ type := header.type, flags := header.flags, sequence := header.sequence, payload },
        rest)

/-- The receiving half of the server's serve loop. -/
def serveReceive (connection : Connection) : Except ReceiveFailure (Frame × Connection) :=
  receive "the peer closed the connection" connection

/-- Why the client has no response frame. -/
inductive ResponseFailure where
  | transport (failure : ReceiveFailure)
  /-- The coordinator answered with an error response. -/
  | refused (error : Text)
  deriving DecidableEq

/-- What the client reports for the payload of an error response. -/
def errorResponseText (payload : Text) : Text :=
  match decodeOutcome payload with
  | .ok failure => failure.toText
  | .error _ => "the coordinator rejected the request"

/-- `receive_frame`: the client waits for a response of the expected type. -/
def receiveFrame (expected : MessageType) (connection : Connection) :
    Except ResponseFailure (Frame × Connection) :=
  match receive "the coordinator closed the connection" connection with
  | .error failure => .error (.transport failure)
  | .ok (frame, rest) =>
      if expected ≠ .heartbeat ∧ frame.type = .errorResponse then
        .error (.refused (errorResponseText frame.payload))
      else
        .ok (frame, rest)

end PortFabric
