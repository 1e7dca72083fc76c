import PortFabric.Protocol.Session

/-!
# Client

The calls of the control-protocol client. A call sends one request and waits
for one frame, and never sends a request again on its own.
-/

set_option autoImplicit false

namespace PortFabric

structure ClientConfig where
  publisher : PublisherId := .null
  boot : WorkerBootId := .null
  role : Text := "client"
  deriving DecidableEq

structure FabricClient where
  config : ClientConfig
  connected : Bool := false
  sequence : UInt64 := 0
  epoch : CoordinatorEpoch := .null
  lastError : Text := []
  deriving DecidableEq

/-- What the sockets do during one call, and what arrives for it. -/
structure Transport where
  available : Bool := true
  opened : Except Text Unit := .ok ()
  sent : Except Text Unit := .ok ()
  arriving : Connection := []

/-- What a call leaves, what it hands to the transport, and what it reports. -/
structure Called (α : Type) where
  client : FabricClient
  sent : List Text := []
  result : α

/-- The text a failed receive is reported with. -/
def ResponseFailure.text : ResponseFailure → Text
  | .transport (.lost error) => error
  | .transport (.malformed message) => message
  | .refused error => error

/-- An outcome the client makes itself. -/
def ReceivedOutcome.transportFailure (message : Text) : ReceivedOutcome :=
  (Outcome.failure .transportFailure message).received

def ReceivedOutcome.accepted (outcome : ReceivedOutcome) : Bool :=
  (OutcomeCode.declared[outcome.code.toNat]?).elim false OutcomeCode.isAccepted

/-- What a remote mutation reports; of the local result only the outcome travels. -/
structure RemoteResult where
  outcome : ReceivedOutcome
  /-- `explanation.accepted`; the code of the explanation is the one of the outcome. -/
  accepted : Bool := false
  /-- `explanation.summary` -/
  summary : Text := []
  deriving DecidableEq

namespace FabricClient

variable (client : FabricClient)

/-- `close` -/
def closed : FabricClient := { client with connected := false }

/-- Sends a request under the next sequence number and waits for a frame. -/
def exchange (request response : MessageType) (payload : Text) (transport : Transport) :
    Called (Except Text Frame) :=
  let client := { client with sequence := client.sequence + 1 }
  match encodeFrame { type := request, sequence := client.sequence, payload } with
  | .error outcome => { client, result := .error outcome.message }
  | .ok bytes =>
  match transport.sent with
  | .error error => { client, sent := [bytes], result := .error error }
  | .ok () =>
  match receiveFrame response transport.arriving with
  | .error failure => { client, sent := [bytes], result := .error failure.text }
  | .ok (frame, _) => { client, sent := [bytes], result := .ok frame }

/--
What every call but the opening one does. Neither the type nor the sequence
number of the response is compared with the request.
-/
def call {α : Type} (request response : MessageType) (encoded : Except Outcome Text)
    (decode : Text → Except Outcome α) (transport : Transport) :
    Called (Except ReceivedOutcome α) :=
  if !client.connected then
    { client, result := .error (.transportFailure "the client is not connected") }
  else
  match encoded with
  | .error outcome => { client, result := .error outcome.received }
  | .ok payload =>
      let exchanged := client.exchange request response payload transport
      match exchanged.result with
      | .error error =>
          { client := { exchanged.client with lastError := error }
            sent := exchanged.sent
            result := .error (.transportFailure error) }
      | .ok frame =>
          { client := exchanged.client
            sent := exchanged.sent
            result := (decode frame.payload).mapError Outcome.received }

/-- A call that reports an outcome reports its own failures the same way. -/
def outcomeOf : Except ReceivedOutcome ReceivedOutcome → ReceivedOutcome
  | .error outcome => outcome
  | .ok outcome => outcome

def registrationMessage : RegisterPublisherMessage where
  publisher := client.config.publisher
  boot := client.config.boot
  epoch := client.epoch

def registerPublisher (transport : Transport) : Called ReceivedOutcome :=
  let called := client.call .registerPublisher .registerPublisherAck
    (encodeRegisterPublisher client.registrationMessage) decodeOutcome transport
  { client := called.client, sent := called.sent, result := outcomeOf called.result }

/-- The summary is filled in only when an outcome was received. -/
def remoteResult : Except ReceivedOutcome ReceivedOutcome → RemoteResult
  | .error outcome => { outcome }
  | .ok outcome => { outcome, accepted := outcome.accepted, summary := outcome.message }

def mutate (message : PortMutationMessage) (transport : Transport) : Called RemoteResult :=
  let called := client.call .mutation .mutationAck (encodeMutation message) decodeOutcome transport
  { client := called.client, sent := called.sent, result := remoteResult called.result }

/-- A failure carries the outcome of the response; its other fields are left out. -/
def query (message : QueryMessage) (transport : Transport) :
    Called (Except ReceivedOutcome (QueryResponse ReceivedOutcome)) :=
  client.call .query .queryAck (encodeQuery message) decodeQueryResponse transport

def fencePublisher (publisher : PublisherId) (boot : WorkerBootId) (detail : Text)
    (transport : Transport) : Called ReceivedOutcome :=
  let called := client.call .fencePublisher .fencePublisherAck
    (encodeFence { publisher, boot, detail }) decodeOutcome transport
  { client := called.client, sent := called.sent, result := outcomeOf called.result }

def helloMessage : HelloMessage where
  version := protocolVersion
  publisher := client.config.publisher
  boot := client.config.boot
  role := client.config.role

/-- What the answer to the opening message leads to. -/
def established (client : FabricClient) (frame : Frame) : FabricClient × ReceivedOutcome :=
  if frame.type ≠ .helloAck then
    (client.closed, .transportFailure
      "the coordinator answered the opening message with an unexpected type")
  else
  match decodeHelloAck frame.payload with
  | .error outcome => (client.closed, outcome.received)
  | .ok ack =>
      if !ack.accepted then
        (client.closed, (Outcome.failure .unauthorizedOwner ack.detail).received)
      else
        ({ client with epoch := ack.epoch }, (Outcome.success "session established").received)

def connect (transport : Transport) : Called ReceivedOutcome :=
  if client.connected then
    { client, result := (Outcome.current "the client is already connected").received }
  else if !transport.available then
    { client, result := .transportFailure "the socket runtime is unavailable on this host" }
  else if !client.config.publisher.valid || !client.config.boot.valid then
    { client
      result := (Outcome.failure .malformedRequest
        "the client configuration does not identify the process").received }
  else
  match transport.opened with
  | .error error =>
      { client := { client with lastError := error }, result := .transportFailure error }
  | .ok () =>
  match encodeHello client.helloMessage with
  | .error outcome => { client, result := outcome.received }
  | .ok payload =>
      let exchanged := { client with connected := true : FabricClient }.exchange .hello .helloAck
        payload transport
      match exchanged.result with
      | .error error =>
          { client := { exchanged.client.closed with lastError := error }
            sent := exchanged.sent
            result := .transportFailure error }
      | .ok frame =>
          let established := established exchanged.client frame
          { client := established.1, sent := exchanged.sent, result := established.2 }

end FabricClient

/-- What a client asks for over an established session. -/
inductive ClientRequest where
  | registerPublisher
  | mutate (message : PortMutationMessage)
  | query (message : QueryMessage)
  | fencePublisher (publisher : PublisherId) (boot : WorkerBootId) (detail : Text)

inductive ClientAnswer where
  | outcome (outcome : ReceivedOutcome)
  | mutation (result : RemoteResult)
  | query (response : Except ReceivedOutcome (QueryResponse ReceivedOutcome))

namespace FabricClient

/-- The call of a request, with the answer of any of them. -/
def perform (client : FabricClient) (transport : Transport) : ClientRequest → Called ClientAnswer
  | .registerPublisher =>
      let called := client.registerPublisher transport
      { client := called.client, sent := called.sent, result := .outcome called.result }
  | .mutate message =>
      let called := client.mutate message transport
      { client := called.client, sent := called.sent, result := .mutation called.result }
  | .query message =>
      let called := client.query message transport
      { client := called.client, sent := called.sent, result := .query called.result }
  | .fencePublisher publisher boot detail =>
      let called := client.fencePublisher publisher boot detail transport
      { client := called.client, sent := called.sent, result := .outcome called.result }

end FabricClient

end PortFabric
