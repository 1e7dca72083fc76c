import PortFabric.Library.Runs
import PortFabric.Protocol.Session

/-!
# Server threads

The control server with its threads: the owner that starts, stops and joins it,
the thread that accepts and one thread per session. They share one mutex over
the session tables, the stop handle, the listener and the sockets of the host,
which hands a closed handle out again.
-/

set_option autoImplicit false

namespace PortFabric

abbrev SocketHandle := Nat

inductive SocketState where
  | closed
  | listening
  | connected
  /-- Shut down in both directions; no call on it blocks any more. -/
  | shut
  deriving DecidableEq, Repr

/-- The next step of a session thread. -/
inductive ServePoint where
  | entering
  /-- It waits for the session mutex. -/
  | registering
  | inserting
  /-- The head of the serve loop. -/
  | checking
  /-- `read_exact` is called, with the stop handle of this moment. -/
  | reading
  /-- `net_wait_readable` looks at the stop handle, then at the socket. -/
  | polling
  | selecting
  | receiving
  | handling (received : Except ReceiveFailure Frame)
  | sending
  /-- It waits for the session mutex. -/
  | unregistering
  | erasing
  | shutting
  | closing
  | leaving
  /-- `done->store(true)`, after which the thread function returns. -/
  | marking
  | ending
  | finished
  deriving DecidableEq

structure ServeThread where
  socket : SocketHandle
  /-- The stop handle that the last call of `read_exact` was given. -/
  stop : Option Nat := none
  session : Session := {}
  point : ServePoint := .entering
  deriving DecidableEq

/-- The next step of the accept thread. -/
inductive AcceptPoint where
  /-- There is no thread to join. -/
  | absent
  | checking
  | pruning
  | collecting
  | joining (finished : List Nat)
  | accepting
  | admitting (socket : SocketHandle)
  | deciding (socket : SocketHandle)
  | leaving
  | finished
  deriving DecidableEq

/-- The next step of the owner; `stop` is the first half of `join`. -/
inductive ControlPoint where
  | outside
  | requesting (joins : Bool)
  | signalling (joins : Bool)
  | locking (joins : Bool)
  | shutting (joins : Bool) (rest : List SocketHandle)
  | joiningAccept
  | swapping
  | detaching
  | joining (rest : List Nat)
  | closing
  deriving DecidableEq

inductive ServerParty where
  | owner
  | acceptor
  | session (thread : Nat)
  deriving DecidableEq

structure CoordinatorServer where
  maxSessions : Nat
  listener : Option SocketHandle := none
  /-- The listeners that a later `start` overwrote; nobody closes them. -/
  lost : List SocketHandle := []
  stop : Option Nat := none
  /-- How many stop handles there have been, which numbers the next one. -/
  stops : Nat := 0
  /-- The stop handles that are signalled. -/
  signalled : List Nat := []
  stopRequested : Bool := false
  running : Bool := false
  activeSessions : Nat := 0
  totalSessions : Nat := 0
  mutex : Option ServerParty := none
  sessionSockets : List SocketHandle := []
  /-- The session threads that nobody has taken over to join. -/
  sessions : List Nat := []
  /-- Every session thread there ever was. -/
  threads : List ServeThread := []
  acceptor : AcceptPoint := .absent
  owner : ControlPoint := .outside
  /-- A thread was assigned over one that nobody had joined: `std::terminate`. -/
  terminated : Bool := false
  sockets : SocketHandle → SocketState := fun _ => .closed

inductive Readiness where
  | readable
  /-- The poll interval is over. -/
  | timeout
  | failed (error : Text)

/-- What the host and the service answer to a session thread where it asks them. -/
structure ServeAnswer where
  readiness : Readiness := .timeout
  /-- Nothing while the frame is incomplete. -/
  received : Option (Except ReceiveFailure Frame) := none
  /-- The frame is incomplete and its payload is read next. -/
  payload : Bool := false
  service : CoordinatorService

/-- What `net_accept` answers. -/
inductive AcceptAnswer where
  | connection (socket : SocketHandle)
  | stopped
  | failed

/-- What the socket runtime and `net_listen` answer. -/
inductive ListenAnswer where
  | unavailable
  | refused
  | listening (socket : SocketHandle)

inductive ServerEvent where
  /-- The owner calls. -/
  | start (answer : ListenAnswer)
  | stop
  | join
  /-- The owner takes the next step of its call. -/
  | owner
  | acceptor (answer : AcceptAnswer)
  | session (thread : Nat) (answer : ServeAnswer)

namespace ServePoint

/-- `done` is set. -/
def isDone : ServePoint → Bool
  | ending | finished => true
  | _ => false

/-- The thread has its socket. -/
def owns : ServePoint → Bool
  | leaving | marking | ending | finished => false
  | _ => true

/-- The socket is in the table of session sockets. -/
def registered : ServePoint → Bool
  | checking | reading | polling | selecting | receiving | handling _ | sending
  | unregistering | erasing => true
  | _ => false

/-- The thread counts as an active session. -/
def counted : ServePoint → Bool
  | entering | marking | ending | finished => false
  | _ => true

/-- The thread has the session mutex. -/
def holds : ServePoint → Bool
  | inserting | erasing => true
  | _ => false

/-- The thread is inside a round of the serve loop. -/
def looping : ServePoint → Bool
  | reading | polling | selecting | receiving | handling _ | sending => true
  | _ => false

/-- The thread is inside `read_exact`. -/
def waiting : ServePoint → Bool
  | polling | selecting | receiving => true
  | _ => false

end ServePoint

namespace AcceptPoint

def holds : AcceptPoint → Bool
  | collecting | deciding _ => true
  | _ => false

/-- The connection that no session has taken over yet. -/
def pending : AcceptPoint → List SocketHandle
  | admitting socket | deciding socket => [socket]
  | _ => []

/-- The session threads that are being joined. -/
def joins : AcceptPoint → List Nat
  | joining rest => rest
  | _ => []

end AcceptPoint

namespace ControlPoint

def holds : ControlPoint → Bool
  | shutting _ _ | detaching => true
  | _ => false

def joins : ControlPoint → List Nat
  | joining rest => rest
  | _ => []

/-- The call has requested the stop. -/
def asked : ControlPoint → Bool
  | outside | requesting _ => false
  | _ => true

/-- The call is a `join`. -/
def ofJoin : ControlPoint → Bool
  | outside => false
  | requesting joins | signalling joins | locking joins | shutting joins _ => joins
  | _ => true

/-- The call is a `join` that has signalled the stop handle. -/
def announced : ControlPoint → Bool
  | locking joins | shutting joins _ => joins
  | joiningAccept | swapping | detaching | joining _ | closing => true
  | _ => false

/-- The sockets the call has still to shut down, once it has begun to. -/
def unshut : ControlPoint → Option (List SocketHandle)
  | outside | requesting _ | signalling _ | locking _ => none
  | shutting _ rest => some rest
  | _ => some []

/-- The call has taken over the session threads. -/
def detached : ControlPoint → Bool
  | joining _ | closing => true
  | _ => false

/-- The call has joined the accept thread. -/
def alone : ControlPoint → Bool
  | swapping | detaching | joining _ | closing => true
  | _ => false

end ControlPoint

namespace CoordinatorServer

variable (server : CoordinatorServer)

def withThread (id : Nat) (thread : ServeThread) : CoordinatorServer :=
  { server with threads := server.threads.set id thread }

/-- The thread moves on. -/
def walk (id : Nat) (thread : ServeThread) (point : ServePoint) : CoordinatorServer :=
  server.withThread id { thread with point }

def withSocket (socket : SocketHandle) (state : SocketState) : CoordinatorServer :=
  { server with
    sockets := fun other => if other = socket then state else server.sockets other }

/-- `shutdown` of a handle; a closed one is refused by the host. -/
def shutdownSocket (socket : SocketHandle) : CoordinatorServer :=
  if server.sockets socket = .closed then server else server.withSocket socket .shut

def closeListener : CoordinatorServer :=
  match server.listener with
  | some socket => server.withSocket socket .closed
  | none => server

/-- The wait for a stop handle is over; there is none for a null one. -/
def raised (stop : Option Nat) : Bool :=
  stop.any fun handle => server.signalled.contains handle

def threadDone (id : Nat) : Bool :=
  (server.threads[id]?).any fun thread => thread.point.isDone

def threadFinished (id : Nat) : Bool :=
  (server.threads[id]?).any fun thread => thread.point = .finished

/-- The step is possible when the mutex is free. -/
def locked (party : ServerParty) (entered : CoordinatorServer) : Option CoordinatorServer :=
  if server.mutex.isSome then none else some { entered with mutex := some party }

/-- `serve`, one step of a session thread; nothing where it has to wait. -/
def serveStep (id : Nat) (thread : ServeThread) (answer : ServeAnswer) :
    Option CoordinatorServer :=
  match thread.point with
  | .entering =>
      some
        { server.walk id thread .registering with
          activeSessions := server.activeSessions + 1
          totalSessions := server.totalSessions + 1 }
  | .registering => server.locked (.session id) (server.walk id thread .inserting)
  | .inserting =>
      some
        { server.walk id thread .checking with
          mutex := none
          sessionSockets := server.sessionSockets ++ [thread.socket] }
  | .checking =>
      some (server.walk id thread (if server.stopRequested then .unregistering else .reading))
  | .reading =>
      some (server.withThread id { thread with stop := server.stop, point := .polling })
  | .polling =>
      some
        (server.walk id thread (if server.raised thread.stop then .unregistering else .selecting))
  | .selecting =>
      match answer.readiness with
      | .readable => some (server.walk id thread .receiving)
      | .timeout => some (server.walk id thread .polling)
      | .failed error => some (server.walk id thread (.handling (.error (.lost error))))
  | .receiving =>
      match answer.received with
      | none => some (server.walk id thread (if answer.payload then .reading else .polling))
      | some received => some (server.walk id thread (.handling received))
  | .handling received =>
      some
        (server.withThread id
          { thread with
            session := (thread.session.step ⟨answer.service, received⟩).session
            point := .sending })
  | .sending =>
      some (server.walk id thread (if thread.session.ended then .unregistering else .checking))
  | .unregistering => server.locked (.session id) (server.walk id thread .erasing)
  | .erasing =>
      some
        { server.walk id thread .shutting with
          mutex := none
          sessionSockets := server.sessionSockets.erase thread.socket }
  | .shutting => some ((server.shutdownSocket thread.socket).walk id thread .closing)
  | .closing => some ((server.withSocket thread.socket .closed).walk id thread .leaving)
  | .leaving =>
      some
        { server.walk id thread .marking with activeSessions := server.activeSessions - 1 }
  | .marking => some (server.walk id thread .ending)
  | .ending => some (server.walk id thread .finished)
  | .finished => none

/-- `accept_loop`, one step. -/
def acceptStep (answer : AcceptAnswer) : Option CoordinatorServer :=
  match server.acceptor with
  | .absent => none
  | .checking =>
      some { server with acceptor := if server.stopRequested then .leaving else .pruning }
  | .pruning => server.locked .acceptor { server with acceptor := .collecting }
  | .collecting =>
      some
        { server with
          mutex := none
          sessions := server.sessions.filter fun id => !server.threadDone id
          acceptor := .joining (server.sessions.filter server.threadDone) }
  | .joining [] => some { server with acceptor := .accepting }
  | .joining (id :: rest) =>
      if server.threadFinished id then some { server with acceptor := .joining rest } else none
  | .accepting =>
      match answer with
      | .connection socket =>
          if server.sockets socket = .closed then
            some { server.withSocket socket .connected with acceptor := .admitting socket }
          else
            none
      | .stopped =>
          if server.raised server.stop then some { server with acceptor := .leaving } else none
      | .failed => some { server with acceptor := .checking }
  | .admitting socket => server.locked .acceptor { server with acceptor := .deciding socket }
  | .deciding socket =>
      if server.maxSessions ≤ server.sessions.length then
        some { server.withSocket socket .closed with mutex := none, acceptor := .checking }
      else
        some
          { server with
            mutex := none
            threads := server.threads ++ [{ socket }]
            sessions := server.sessions ++ [server.threads.length]
            acceptor := .checking }
  | .leaving => some { server with running := false, acceptor := .finished }
  | .finished => none

/-- `stop` and `join`, one step. -/
def ownerStep : Option CoordinatorServer :=
  match server.owner with
  | .outside => none
  | .requesting joins => some { server with stopRequested := true, owner := .signalling joins }
  | .signalling joins =>
      some
        { server with
          signalled := server.stop.toList ++ server.signalled
          owner := .locking joins }
  | .locking joins =>
      server.locked .owner { server with owner := .shutting joins server.sessionSockets }
  | .shutting joins (socket :: rest) =>
      some { server.shutdownSocket socket with owner := .shutting joins rest }
  | .shutting joins [] =>
      some { server with mutex := none, owner := if joins then .joiningAccept else .outside }
  | .joiningAccept =>
      if server.acceptor = .absent ∨ server.acceptor = .finished then
        some { server with acceptor := .absent, owner := .swapping }
      else
        none
  | .swapping => server.locked .owner { server with owner := .detaching }
  | .detaching =>
      some { server with mutex := none, sessions := [], owner := .joining server.sessions }
  | .joining (id :: rest) =>
      if server.threadFinished id then some { server with owner := .joining rest } else none
  | .joining [] => some { server with owner := .closing }
  | .closing =>
      some
        { server.closeListener with
          listener := none, stop := none, running := false, owner := .outside }

/-- The members that `start` assigns before it knows whether it can listen. -/
def startOver : CoordinatorServer :=
  { server with
    lost := server.lost ++ server.listener.toList
    listener := none
    stop := none
    stops := server.stops + 1 }

/-- The server that listens with the given socket. -/
def listensWith (socket : SocketHandle) : CoordinatorServer :=
  { server.startOver.withSocket socket .listening with
    listener := some socket
    stop := some server.stops
    stopRequested := false
    running := true }

/-- `start`, whose stop handle is always created; nothing where the host cannot answer so. -/
def startStep (answer : ListenAnswer) : Option CoordinatorServer :=
  if server.running then
    some server
  else
    match answer with
    | .unavailable => some server
    | .refused => some server.startOver
    | .listening socket =>
        if server.sockets socket = .closed then
          if server.acceptor = .absent then
            some { server.listensWith socket with acceptor := .checking }
          else
            some { server.listensWith socket with terminated := true }
        else
          none

/-- What a call of the owner leads to. -/
def callStep : ServerEvent → Option CoordinatorServer
  | .start answer => server.startStep answer
  | .stop => some { server with owner := .requesting false }
  | .join =>
      if server.listener.isNone ∧ server.stop.isNone then
        some server
      else
        some { server with owner := .requesting true }
  | _ => none

/-- What an event leads to; nothing when it cannot happen. -/
def advance (event : ServerEvent) : Option CoordinatorServer :=
  if server.terminated then
    none
  else
    match event with
    | .start _ | .stop | .join => if server.owner = .outside then server.callStep event else none
    | .owner => server.ownerStep
    | .acceptor answer => server.acceptStep answer
    | .session id answer =>
        (server.threads[id]?).bind fun thread => server.serveStep id thread answer

def step (event : ServerEvent) : CoordinatorServer := (server.advance event).getD server

end CoordinatorServer

end PortFabric
