import PortFabric.Library.Pools
import PortFabric.Server.Threads

/-!
# Properties of the server threads

What one step of a session thread, of the accept thread and of the owner can do,
and who has the session mutex.
-/

set_option autoImplicit false

namespace PortFabric

/-- How far a session thread is from its end once the server stops. -/
def ServePoint.remaining : ServePoint → Nat
  | entering => 13
  | registering => 12
  | inserting => 11
  | selecting => 12
  | receiving => 11
  | handling _ => 10
  | sending => 9
  | checking => 8
  | reading => 9
  | polling => 8
  | unregistering => 7
  | erasing => 6
  | shutting => 5
  | closing => 4
  | leaving => 3
  | marking => 2
  | ending => 1
  | finished => 0

/-- How far the accept thread is from its end, with the session it may still start. -/
def AcceptPoint.remaining : AcceptPoint → Nat
  | absent => 0
  | checking => 2
  | pruning => 22
  | collecting => 21
  | joining rest => 20 + rest.length
  | accepting => 19
  | admitting _ => 18
  | deciding _ => 17
  | leaving => 1
  | finished => 0

/-- The accept thread is inside its function. -/
def AcceptPoint.active : AcceptPoint → Bool
  | absent | finished => false
  | _ => true

namespace CoordinatorServer

variable {server : CoordinatorServer}

/-- The session thread moves on by itself: its place in every table stays the same. -/
structure Walks (server : CoordinatorServer) (thread next : ServeThread) : Prop where
  going : thread.point ≠ .finished
  socket : next.socket = thread.socket
  owns : next.point.owns = thread.point.owns
  registered : next.point.registered = thread.point.registered
  counted : next.point.counted = thread.point.counted
  unlocked : thread.point.holds = false ∧ next.point.holds = false
  loops : next.point.looping = true →
    thread.point.looping = true ∨ server.stopRequested = false
  heeds : next.point.waiting = true →
    next.stop = server.stop ∨ thread.point.waiting = true ∧ next.stop = thread.stop
  done : thread.point.isDone = true → next.point.isDone = true
  nears : server.stopRequested = true →
    (thread.point.waiting = true → server.raised thread.stop = true) →
      next.point.remaining < thread.point.remaining

/-- Inside a round, and from there to the end of the loop, nothing but the place changes. -/
theorem Walks.inside {thread next : ServeThread} (looping : thread.point.looping = true)
    (socket : next.socket = thread.socket) (registered : next.point.registered = true)
    (unlocked : next.point.holds = false)
    (heeds : next.point.waiting = true →
      next.stop = server.stop ∨ thread.point.waiting = true ∧ next.stop = thread.stop)
    (nears : (thread.point.waiting = true → server.raised thread.stop = true) →
      next.point.remaining < thread.point.remaining) : Walks server thread next := by
  have here : thread.point.owns = true ∧ thread.point.registered = true ∧
      thread.point.counted = true ∧ thread.point.holds = false ∧
      thread.point.isDone = false ∧ thread.point ≠ .finished := by
    cases point : thread.point <;>
      first
      | exact ⟨rfl, rfl, rfl, rfl, rfl, ServePoint.noConfusion⟩
      | (rw [point] at looping; cases looping)
  have there : next.point.owns = true ∧ next.point.counted = true := by
    cases point : next.point <;>
      first
      | exact ⟨rfl, rfl⟩
      | (rw [point] at registered; cases registered)
  obtain ⟨owns, was, counted, free, undone, going⟩ := here
  refine ⟨going, socket, ?_, ?_, ?_, ⟨free, unlocked⟩, fun _ => .inl looping, heeds, ?_,
    fun _ => nears⟩
  · rw [there.1, owns]
  · rw [registered, was]
  · rw [there.2, counted]
  · intro done
    rw [undone] at done
    cases done

/-- Everything that a step of a session thread can do. -/
inductive ServeMove (server : CoordinatorServer) (id : Nat) (thread : ServeThread) :
    CoordinatorServer → Prop where
  | walked {next : ServeThread} (walks : Walks server thread next) :
      ServeMove server id thread (server.withThread id next)
  | entered (here : thread.point = .entering) :
      ServeMove server id thread
        { server.walk id thread .registering with
          activeSessions := server.activeSessions + 1
          totalSessions := server.totalSessions + 1 }
  | locked {point : ServePoint} (free : server.mutex = none)
      (here : thread.point = .registering ∧ point = .inserting ∨
        thread.point = .unregistering ∧ point = .erasing) :
      ServeMove server id thread { server.walk id thread point with mutex := some (.session id) }
  | inserted (here : thread.point = .inserting) :
      ServeMove server id thread
        { server.walk id thread .checking with
          mutex := none
          sessionSockets := server.sessionSockets ++ [thread.socket] }
  | erased (here : thread.point = .erasing) :
      ServeMove server id thread
        { server.walk id thread .shutting with
          mutex := none
          sessionSockets := server.sessionSockets.erase thread.socket }
  | shut (here : thread.point = .shutting) :
      ServeMove server id thread ((server.shutdownSocket thread.socket).walk id thread .closing)
  | closed (here : thread.point = .closing) :
      ServeMove server id thread
        ((server.withSocket thread.socket .closed).walk id thread .leaving)
  | left (here : thread.point = .leaving) :
      ServeMove server id thread
        { server.walk id thread .marking with activeSessions := server.activeSessions - 1 }

theorem locked_eq_some {party : ServerParty} {entered after : CoordinatorServer}
    (advanced : server.locked party entered = some after) :
    server.mutex = none ∧ after = { entered with mutex := some party } := by
  unfold locked at advanced
  split at advanced
  · cases advanced
  · next free =>
      cases advanced
      exact ⟨by simpa using free, rfl⟩

theorem serveStep_moves {id : Nat} {thread : ServeThread} {answer : ServeAnswer}
    {after : CoordinatorServer} (advanced : server.serveStep id thread answer = some after) :
    ServeMove server id thread after := by
  unfold serveStep at advanced
  cases here : thread.point with
  | entering =>
      rw [here] at advanced
      cases advanced
      exact .entered here
  | registering =>
      rw [here] at advanced
      obtain ⟨free, rfl⟩ := locked_eq_some advanced
      exact .locked free (.inl ⟨here, rfl⟩)
  | inserting =>
      rw [here] at advanced
      cases advanced
      exact .inserted here
  | checking =>
      rw [here] at advanced
      cases advanced
      refine .walked ?_
      cases requested : server.stopRequested with
      | false =>
          refine ⟨?_, rfl, ?_, ?_, ?_, ?_, fun _ => .inr requested, Bool.noConfusion, ?_,
            fun stops => Bool.noConfusion (requested.symm.trans stops)⟩
          all_goals simp [here, ServePoint.owns, ServePoint.registered, ServePoint.counted,
            ServePoint.holds, ServePoint.isDone]
      | true =>
          refine ⟨?_, rfl, ?_, ?_, ?_, ?_, Bool.noConfusion, Bool.noConfusion, ?_, ?_⟩
          all_goals simp [here, ServePoint.owns, ServePoint.registered, ServePoint.counted,
            ServePoint.holds, ServePoint.isDone, ServePoint.remaining]
  | reading =>
      rw [here] at advanced
      cases advanced
      refine .walked (.inside (by rw [here]; rfl) rfl rfl rfl (fun _ => .inl rfl) fun _ => ?_)
      rw [here]
      exact Nat.lt_succ_self 8
  | polling =>
      rw [here] at advanced
      cases advanced
      refine .walked (.inside (by rw [here]; rfl) rfl ?_ ?_ ?_ ?_)
      · dsimp only
        split <;> rfl
      · dsimp only
        split <;> rfl
      · exact fun _ => .inr ⟨by rw [here]; rfl, rfl⟩
      · intro raised
        rw [here] at raised
        rw [if_pos (raised rfl), here]
        exact Nat.lt_succ_self 7
  | selecting =>
      rw [here] at advanced
      dsimp only at advanced
      split at advanced
      all_goals
        cases advanced
        refine .walked (.inside (by rw [here]; rfl) rfl rfl rfl ?_ ?_)
        · exact fun _ => .inr ⟨by rw [here]; rfl, rfl⟩
        · simp [here, ServePoint.remaining]
  | receiving =>
      rw [here] at advanced
      dsimp only at advanced
      split at advanced
      · cases advanced
        refine .walked (.inside (by rw [here]; rfl) rfl ?_ ?_ ?_ ?_)
        · dsimp only
          split <;> rfl
        · dsimp only
          split <;> rfl
        · exact fun _ => .inr ⟨by rw [here]; rfl, rfl⟩
        · dsimp only
          split <;> simp [here, ServePoint.remaining]
      · cases advanced
        refine .walked (.inside (by rw [here]; rfl) rfl rfl rfl Bool.noConfusion ?_)
        simp [here, ServePoint.remaining]
  | handling received =>
      rw [here] at advanced
      cases advanced
      refine .walked (.inside (by rw [here]; rfl) rfl rfl rfl Bool.noConfusion fun _ => ?_)
      rw [here]
      exact Nat.lt_succ_self 9
  | sending =>
      rw [here] at advanced
      cases advanced
      refine .walked (.inside (by rw [here]; rfl) rfl ?_ ?_ ?_ ?_)
      · dsimp only
        split <;> rfl
      · dsimp only
        split <;> rfl
      · dsimp only
        split <;> exact Bool.noConfusion
      · dsimp only
        split <;> simp [here, ServePoint.remaining]
  | unregistering =>
      rw [here] at advanced
      obtain ⟨free, rfl⟩ := locked_eq_some advanced
      exact .locked free (.inr ⟨here, rfl⟩)
  | erasing =>
      rw [here] at advanced
      cases advanced
      exact .erased here
  | shutting =>
      rw [here] at advanced
      cases advanced
      exact .shut here
  | closing =>
      rw [here] at advanced
      cases advanced
      exact .closed here
  | leaving =>
      rw [here] at advanced
      cases advanced
      exact .left here
  | marking | ending =>
      rw [here] at advanced
      cases advanced
      refine .walked ⟨?_, rfl, ?_, ?_, ?_, ?_, Bool.noConfusion, Bool.noConfusion, ?_, ?_⟩
      all_goals simp [here, ServePoint.owns, ServePoint.registered, ServePoint.counted,
        ServePoint.holds, ServePoint.isDone, ServePoint.remaining]
  | finished =>
      rw [here] at advanced
      cases advanced

/-- Everything that a step of the accept thread can do. -/
inductive AcceptMove (server : CoordinatorServer) : CoordinatorServer → Prop where
  | walked {point : AcceptPoint} (unlocked : server.acceptor.holds = false ∧ point.holds = false)
      (pending : server.acceptor.pending = [] ∧ point.pending = [])
      (joined : ∀ id ∈ server.acceptor.joins, id ∈ point.joins ∨ server.threadFinished id = true)
      (fewer : ∀ id ∈ point.joins, id ∈ server.acceptor.joins)
      (active : server.acceptor.active = true) (stays : point ≠ .absent)
      (nears : server.stopRequested = true → point.remaining < server.acceptor.remaining) :
      AcceptMove server { server with acceptor := point }
  | left (here : server.acceptor = .leaving) :
      AcceptMove server { server with running := false, acceptor := .finished }
  | locked {point : AcceptPoint} (free : server.mutex = none)
      (here : server.acceptor = .pruning ∧ point = .collecting ∨
        ∃ socket, server.acceptor = .admitting socket ∧ point = .deciding socket) :
      AcceptMove server { server with acceptor := point, mutex := some .acceptor }
  | collected (here : server.acceptor = .collecting) :
      AcceptMove server
        { server with
          mutex := none
          sessions := server.sessions.filter fun id => !server.threadDone id
          acceptor := .joining (server.sessions.filter server.threadDone) }
  | took {socket : SocketHandle} (here : server.acceptor = .accepting)
      (fresh : server.sockets socket = .closed) :
      AcceptMove server
        { server.withSocket socket .connected with acceptor := .admitting socket }
  | refused {socket : SocketHandle} (here : server.acceptor = .deciding socket)
      (full : server.maxSessions ≤ server.sessions.length) :
      AcceptMove server
        { server.withSocket socket .closed with mutex := none, acceptor := .checking }
  | admitted {socket : SocketHandle} (here : server.acceptor = .deciding socket)
      (room : server.sessions.length < server.maxSessions) :
      AcceptMove server
        { server with
          mutex := none
          threads := server.threads ++ [{ socket }]
          sessions := server.sessions ++ [server.threads.length]
          acceptor := .checking }

theorem acceptStep_moves {answer : AcceptAnswer} {after : CoordinatorServer}
    (advanced : server.acceptStep answer = some after) : AcceptMove server after := by
  unfold acceptStep at advanced
  cases here : server.acceptor with
  | absent | finished =>
      rw [here] at advanced
      cases advanced
  | checking =>
      rw [here] at advanced
      cases advanced
      refine .walked ⟨by rw [here]; rfl, by split <;> rfl⟩ ⟨by rw [here]; rfl, by split <;> rfl⟩
        (by simp [here, AcceptPoint.joins]) ?_ (by rw [here]; rfl)
        (by split <;> exact AcceptPoint.noConfusion) ?_
      · split <;> simp [AcceptPoint.joins]
      · intro requested
        rw [here, if_pos requested]
        exact Nat.lt_succ_self 1
  | pruning =>
      rw [here] at advanced
      obtain ⟨free, rfl⟩ := locked_eq_some advanced
      exact .locked free (.inl ⟨here, rfl⟩)
  | collecting =>
      rw [here] at advanced
      cases advanced
      exact .collected here
  | joining finished =>
      rw [here] at advanced
      cases finished with
      | nil =>
          cases advanced
          exact .walked (by simp [here, AcceptPoint.holds]) (by simp [here, AcceptPoint.pending])
            (by simp [here, AcceptPoint.joins]) (by simp [AcceptPoint.joins]) (by rw [here]; rfl)
            AcceptPoint.noConfusion
            (by simp [here, AcceptPoint.remaining])
      | cons id rest =>
          dsimp only at advanced
          split at advanced
          · next ended =>
              cases advanced
              exact .walked (by simp [here, AcceptPoint.holds])
                (by simp [here, AcceptPoint.pending])
                (by simp only [here, AcceptPoint.joins]; grind)
                (by simp only [here, AcceptPoint.joins]; grind) (by rw [here]; rfl)
                AcceptPoint.noConfusion
                (by simp [here, AcceptPoint.remaining])
          · cases advanced
  | accepting =>
      rw [here] at advanced
      dsimp only at advanced
      split at advanced
      · split at advanced
        · next fresh =>
            cases advanced
            exact .took here fresh
        · cases advanced
      · split at advanced
        · cases advanced
          exact .walked (by simp [here, AcceptPoint.holds]) (by simp [here, AcceptPoint.pending])
            (by simp [here, AcceptPoint.joins]) (by simp [AcceptPoint.joins]) (by rw [here]; rfl)
            AcceptPoint.noConfusion
            (by simp [here, AcceptPoint.remaining])
        · cases advanced
      · cases advanced
        exact .walked (by simp [here, AcceptPoint.holds]) (by simp [here, AcceptPoint.pending])
          (by simp [here, AcceptPoint.joins]) (by simp [AcceptPoint.joins]) (by rw [here]; rfl)
          AcceptPoint.noConfusion (by simp [here, AcceptPoint.remaining])
  | admitting socket =>
      rw [here] at advanced
      obtain ⟨free, rfl⟩ := locked_eq_some advanced
      exact .locked free (.inr ⟨socket, here, rfl⟩)
  | deciding socket =>
      rw [here] at advanced
      dsimp only at advanced
      split at advanced
      · next full =>
          cases advanced
          exact .refused here full
      · next room =>
          cases advanced
          exact .admitted here (Nat.not_le.mp room)
  | leaving =>
      rw [here] at advanced
      cases advanced
      exact .left here

/-- Everything that a step of the owner can do inside its call. -/
inductive OwnerMove (server : CoordinatorServer) : CoordinatorServer → Prop where
  | requested {joins : Bool} (here : server.owner = .requesting joins) :
      OwnerMove server { server with stopRequested := true, owner := .signalling joins }
  | signalled {joins : Bool} (here : server.owner = .signalling joins) :
      OwnerMove server
        { server with
          signalled := server.stop.toList ++ server.signalled
          owner := .locking joins }
  | lockedSockets {joins : Bool} (free : server.mutex = none)
      (here : server.owner = .locking joins) :
      OwnerMove server
        { server with owner := .shutting joins server.sessionSockets, mutex := some .owner }
  | shut {joins : Bool} {socket : SocketHandle} {rest : List SocketHandle}
      (here : server.owner = .shutting joins (socket :: rest)) :
      OwnerMove server { server.shutdownSocket socket with owner := .shutting joins rest }
  | released {joins : Bool} (here : server.owner = .shutting joins []) :
      OwnerMove server
        { server with mutex := none, owner := if joins then .joiningAccept else .outside }
  | joinedAcceptor (here : server.owner = .joiningAccept)
      (past : server.acceptor = .absent ∨ server.acceptor = .finished) :
      OwnerMove server { server with acceptor := .absent, owner := .swapping }
  | lockedSessions (free : server.mutex = none) (here : server.owner = .swapping) :
      OwnerMove server { server with owner := .detaching, mutex := some .owner }
  | detached (here : server.owner = .detaching) :
      OwnerMove server
        { server with mutex := none, sessions := [], owner := .joining server.sessions }
  | joined {id : Nat} {rest : List Nat} (here : server.owner = .joining (id :: rest))
      (ended : server.threadFinished id = true) :
      OwnerMove server { server with owner := .joining rest }
  | alone (here : server.owner = .joining []) :
      OwnerMove server { server with owner := .closing }
  | closed (here : server.owner = .closing) :
      OwnerMove server
        { server.closeListener with
          listener := none, stop := none, running := false, owner := .outside }

theorem ownerStep_moves {after : CoordinatorServer} (advanced : server.ownerStep = some after) :
    OwnerMove server after := by
  unfold ownerStep at advanced
  cases here : server.owner with
  | outside =>
      rw [here] at advanced
      cases advanced
  | requesting joins =>
      rw [here] at advanced
      cases advanced
      exact .requested here
  | signalling joins =>
      rw [here] at advanced
      cases advanced
      exact .signalled here
  | locking joins =>
      rw [here] at advanced
      obtain ⟨free, rfl⟩ := locked_eq_some advanced
      exact .lockedSockets free here
  | shutting joins rest =>
      rw [here] at advanced
      cases rest with
      | nil =>
          cases advanced
          exact .released here
      | cons socket rest =>
          cases advanced
          exact .shut here
  | joiningAccept =>
      rw [here] at advanced
      dsimp only at advanced
      split at advanced
      · next ended =>
          cases advanced
          exact .joinedAcceptor here ended
      · cases advanced
  | swapping =>
      rw [here] at advanced
      obtain ⟨free, rfl⟩ := locked_eq_some advanced
      exact .lockedSessions free here
  | detaching =>
      rw [here] at advanced
      cases advanced
      exact .detached here
  | joining rest =>
      rw [here] at advanced
      cases rest with
      | nil =>
          cases advanced
          exact .alone here
      | cons id rest =>
          dsimp only at advanced
          split at advanced
          · next ended =>
              cases advanced
              exact .joined here ended
          · cases advanced
  | closing =>
      rw [here] at advanced
      cases advanced
      exact .closed here

/-- Everything that a call of the owner can do at once. -/
inductive CallMove (server : CoordinatorServer) : ServerEvent → CoordinatorServer → Prop where
  | returned {event : ServerEvent} : CallMove server event server
  | refused {answer : ListenAnswer} (halted : server.running = false) :
      CallMove server (.start answer) server.startOver
  | started {answer : ListenAnswer} {socket : SocketHandle} (halted : server.running = false)
      (fresh : server.sockets socket = .closed) (absent : server.acceptor = .absent) :
      CallMove server (.start answer)
        { server.listensWith socket with acceptor := .checking }
  | terminated {answer : ListenAnswer} {socket : SocketHandle} (halted : server.running = false)
      (fresh : server.sockets socket = .closed) (present : server.acceptor ≠ .absent) :
      CallMove server (.start answer) { server.listensWith socket with terminated := true }
  | stopping : CallMove server .stop { server with owner := .requesting false }
  | joining (heard : server.listener.isSome = true ∨ server.stop.isSome = true) :
      CallMove server .join { server with owner := .requesting true }

theorem startStep_moves {answer : ListenAnswer} {after : CoordinatorServer}
    (advanced : server.startStep answer = some after) :
    CallMove server (.start answer) after := by
  unfold startStep at advanced
  split at advanced
  · cases advanced
    exact .returned
  · next halted =>
      have halted := Bool.eq_false_iff.mpr halted
      cases answer with
      | unavailable =>
          cases advanced
          exact .returned
      | refused =>
          cases advanced
          exact .refused halted
      | listening socket =>
          dsimp only at advanced
          split at advanced
          · next fresh =>
              split at advanced
              · next absent =>
                  cases advanced
                  exact .started halted fresh absent
              · next present =>
                  cases advanced
                  exact .terminated halted fresh present
          · cases advanced

theorem callStep_moves {event : ServerEvent} {after : CoordinatorServer}
    (advanced : server.callStep event = some after) : CallMove server event after := by
  cases event with
  | start answer => exact startStep_moves advanced
  | stop =>
      cases advanced
      exact .stopping
  | join =>
      simp only [callStep] at advanced
      split at advanced
      · cases advanced
        exact .returned
      · next heard =>
          cases advanced
          refine .joining ?_
          simpa [Classical.or_iff_not_imp_left, ← Option.isNone_iff_eq_none] using heard
  | owner | acceptor | session => cases advanced

/-- Everything that an event can do. -/
inductive Move (server : CoordinatorServer) : ServerEvent → CoordinatorServer → Prop where
  | called {event : ServerEvent} {after : CoordinatorServer} (outside : server.owner = .outside)
      (moves : CallMove server event after) : Move server event after
  | owner {after : CoordinatorServer} (moves : OwnerMove server after) : Move server .owner after
  | acceptor {answer : AcceptAnswer} {after : CoordinatorServer} (moves : AcceptMove server after) :
      Move server (.acceptor answer) after
  | session {id : Nat} {answer : ServeAnswer} {thread : ServeThread} {after : CoordinatorServer}
      (found : server.threads[id]? = some thread) (moves : ServeMove server id thread after) :
      Move server (.session id answer) after

theorem advance_moves {event : ServerEvent} {after : CoordinatorServer}
    (advanced : server.advance event = some after) :
    server.terminated = false ∧ Move server event after := by
  unfold advance at advanced
  split at advanced
  · cases advanced
  · next alive =>
      refine ⟨Bool.eq_false_iff.mpr alive, ?_⟩
      cases event with
      | start | stop | join =>
          dsimp only at advanced
          split at advanced
          · next outside => exact .called outside (callStep_moves advanced)
          · cases advanced
      | owner => exact .owner (ownerStep_moves advanced)
      | acceptor answer => exact .acceptor (acceptStep_moves advanced)
      | session id answer =>
          obtain ⟨thread, found, moved⟩ := Option.bind_eq_some_iff.mp advanced
          exact .session found (serveStep_moves moved)

/-- An invariant of every move is one of every step. -/
theorem step_of_moves {holds : CoordinatorServer → Prop} (held : holds server)
    (kept : ∀ event after, server.terminated = false → Move server event after → holds after)
    (event : ServerEvent) : holds (server.step event) := by
  unfold step
  cases advanced : server.advance event with
  | none => exact held
  | some after => exact kept event after (advance_moves advanced).1 (advance_moves advanced).2

end CoordinatorServer

end PortFabric
