import PortFabric.Engine.Request
import PortFabric.Protocol.Receive

/-!
# Sessions

The serve loop of one session. Sessions share the service, so that the service
may have changed between two frames in any way: each frame meets a service of
its own.
-/

set_option autoImplicit false

namespace PortFabric

/-- What the entry points of the service answer while one frame is handled. -/
structure CoordinatorService where
  onHello : HelloMessage → Outcome × CoordinatorEpoch
  onRegisterPublisher : RegisterPublisherMessage → Outcome
  onMutation : PortMutationMessage → MutationResult
  onQuery : QueryMessage → QueryResponse Outcome
  onFence : FenceMessage → Outcome

/-- An entry point of the service that was invoked. -/
inductive ServiceCall where
  | hello (message : HelloMessage) (outcome : Outcome)
  | registerPublisher (message : RegisterPublisherMessage)
  | mutation (message : PortMutationMessage)
  | query (message : QueryMessage)
  | fence (message : FenceMessage)
  deriving DecidableEq

structure Session where
  helloSeen : Bool := false
  sequence : UInt64 := 0
  ended : Bool := false
  deriving DecidableEq

/-- What one frame leads to. -/
structure Served where
  session : Session
  calls : List ServiceCall := []
  /-- The bytes handed to the transport, frame by frame. -/
  sent : List Text := []
  deriving DecidableEq

/-- `send_frame`: a frame that cannot be encoded is not sent. -/
def sendFrame (type : MessageType) (sequence : UInt64) (payload : Text) : List Text :=
  match encodeFrame { type, sequence, payload } with
  | .error _ => []
  | .ok bytes => [bytes]

/-- A message is sent when its payload could be encoded. -/
def sendEncoded (type : MessageType) (sequence : UInt64) (encoded : Except Outcome Text) :
    List Text :=
  match encoded with
  | .error _ => []
  | .ok payload => sendFrame type sequence payload

def isResponse : MessageType → Bool
  | .helloAck | .registerPublisherAck | .mutationAck | .queryAck | .fencePublisherAck
  | .heartbeatAck | .errorResponse => true
  | _ => false

namespace Session

variable (service : CoordinatorService) (session : Session) (frame : Frame)

/-- The request is answered by an error response; the session goes on. -/
def refuse (message : Text) : Served where
  session
  sent := sendEncoded .errorResponse frame.sequence
    (encodeOutcome (.failure .malformedRequest message))

/-- Requests wait for the opening handshake. -/
def afterHello (handle : Served) : Served :=
  if !session.helloSeen then
    session.refuse frame "the session has not completed its opening handshake"
  else
    handle

def serveHello : Served :=
  match decodeHello frame.payload with
  | .error outcome => session.refuse frame outcome.message
  | .ok hello =>
      let (outcome, epoch) := service.onHello hello
      { session := { session with helloSeen := outcome.accepted }
        calls := [.hello hello outcome]
        sent := sendEncoded .helloAck frame.sequence
          (encodeHelloAck { accepted := outcome.accepted, epoch, detail := outcome.message }) }

def serveRegisterPublisher : Served :=
  session.afterHello frame <|
  match decodeRegisterPublisher frame.payload with
  | .error outcome =>
      { session
        sent := sendEncoded .registerPublisherAck frame.sequence
          (encodeOutcome (.failure .malformedRequest outcome.message)) }
  | .ok message =>
      { session
        calls := [.registerPublisher message]
        sent := sendEncoded .registerPublisherAck frame.sequence
          (encodeOutcome (service.onRegisterPublisher message)) }

def serveMutation : Served :=
  session.afterHello frame <|
  match decodeMutation frame.payload with
  | .error outcome => session.refuse frame outcome.message
  | .ok message =>
      { session
        calls := [.mutation message]
        sent := sendEncoded .mutationAck frame.sequence
          (encodeOutcome (service.onMutation message).outcome) }

/-- What is answered in place of a response that cannot be encoded; its text is kept. -/
def boundedResponse (response : QueryResponse Outcome) : QueryResponse Outcome :=
  { response with
    outcome := .failure .resourceBoundExceeded "the query response exceeds the frame bound"
    records := []
    ports := []
    profiles := []
    devices := [] }

/-- The response, or the bounded one when the response cannot be encoded. -/
def encodeAnswer (response : QueryResponse Outcome) : Except Outcome Text :=
  match encodeQueryResponse response with
  | .ok payload => .ok payload
  | .error _ => encodeQueryResponse (boundedResponse response)

def serveQuery : Served :=
  session.afterHello frame <|
  match decodeQuery frame.payload with
  | .error outcome => session.refuse frame outcome.message
  | .ok message =>
      { session
        calls := [.query message]
        sent := sendEncoded .queryAck frame.sequence (encodeAnswer (service.onQuery message)) }

/-- A fence request is served whether or not the session is open. -/
def serveFencePublisher : Served :=
  match decodeFence frame.payload with
  | .error outcome =>
      { session
        sent := sendEncoded .fencePublisherAck frame.sequence
          (encodeOutcome (.failure .malformedRequest outcome.message)) }
  | .ok message =>
      { session
        calls := [.fence message]
        sent := sendEncoded .fencePublisherAck frame.sequence
          (encodeOutcome (service.onFence message)) }

/-- The arms of the serve loop; a response from the peer ends the session. -/
def handle : Served :=
  match frame.type with
  | .hello => session.serveHello service frame
  | .registerPublisher => session.serveRegisterPublisher service frame
  | .mutation => session.serveMutation service frame
  | .query => session.serveQuery service frame
  | .fencePublisher => session.serveFencePublisher service frame
  | .heartbeat => { session, sent := sendFrame .heartbeatAck frame.sequence [] }
  | .shutdown =>
      session.refuse frame "the coordinator does not accept a remote shutdown request"
  | .helloAck | .registerPublisherAck | .mutationAck | .queryAck | .fencePublisherAck
  | .heartbeatAck | .errorResponse =>
      { session := { session with ended := true }
        sent := sendEncoded .errorResponse frame.sequence
          (encodeOutcome (.failure .malformedRequest
            "the peer sent a response message to the coordinator")) }
  | .illegal _ => { session }

end Session

/-- One round of the serve loop: what was received, and the service that handles it. -/
structure Reception where
  service : CoordinatorService
  received : Except ReceiveFailure Frame

namespace Session

/-- A malformed frame is answered once, then the session ends. -/
def step (session : Session) (reception : Reception) : Served :=
  match reception.received with
  | .error (.lost _) => { session := { session with ended := true } }
  | .error (.malformed message) =>
      { session := { session with sequence := session.sequence + 1, ended := true }
        sent := sendEncoded .errorResponse (session.sequence + 1)
          (encodeOutcome (.failure .transportFailure message)) }
  | .ok frame =>
      { session with sequence := session.sequence + 1 : Session }.handle reception.service frame

/-- Serves what is received, round by round, until the session ends. -/
def serve : Session → List Reception → List Served
  | _, [] => []
  | session, reception :: later =>
      session.step reception ::
        if (session.step reception).session.ended then []
        else serve (session.step reception).session later

/-- `serve`, over the connection; every round meets a service of its own. -/
def serveConnection : Session → Connection → List CoordinatorService → List Served
  | _, _, [] => []
  | session, connection, service :: later =>
      match serveReceive connection with
      | .error failure => [session.step ⟨service, .error failure⟩]
      | .ok (frame, rest) =>
          session.step ⟨service, .ok frame⟩ ::
            if (session.step ⟨service, .ok frame⟩).session.ended then []
            else
              serveConnection (session.step ⟨service, .ok frame⟩).session rest later

/-- The entry points a session invokes, in their order. -/
def calls (session : Session) (receptions : List Reception) : List ServiceCall :=
  (session.serve receptions).flatMap Served.calls

end Session

end PortFabric
