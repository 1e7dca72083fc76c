import PortFabric.Server.ThreadHandover

/-!
# Socket hygiene

Every socket of the server, its listener included, is shut down and closed by the
one thread that has it, although the host hands a closed handle out again, and the
sessions keep to their bound. Both hold in every interleaving of the server threads,
with any starts, stops and joins: only a listener that a start overwrites is lost.
-/

set_option autoImplicit false

namespace PortFabric

open CoordinatorServer

/-- The handles that a step hands to `net_shutdown` or `net_close`. -/
def CoordinatorServer.touches (server : CoordinatorServer) : ServerEvent → List SocketHandle
  | .owner =>
      match server.owner with
      | .shutting _ (socket :: _) => [socket]
      | .closing => server.listener.toList
      | _ => []
  | .acceptor _ =>
      match server.acceptor with
      | .deciding socket =>
          if server.maxSessions ≤ server.sessions.length then [socket] else []
      | _ => []
  | .session id _ =>
      match server.threads[id]? with
      | some thread =>
          if thread.point = .shutting ∨ thread.point = .closing then [thread.socket] else []
      | none => []
  | _ => []

/-- The handles that belong to whoever takes the step. -/
def CoordinatorServer.holdings (server : CoordinatorServer) : ServerEvent → List SocketHandle
  | .owner => server.sessionSockets ++ server.listener.toList
  | .acceptor _ => server.acceptor.pending
  | .session id _ => (server.threads[id]?.map ServeThread.socket).toList
  | _ => []

section Touching

variable {server : CoordinatorServer} {socket : SocketHandle}

theorem CoordinatorServer.Owned.touches (owned : server.Owned) {event : ServerEvent}
    (touched : socket ∈ server.touches event) :
    socket ∈ server.holdings event ∧ server.sockets socket ≠ .closed := by
  cases event with
  | owner =>
      simp only [CoordinatorServer.touches] at touched
      split at touched
      · next joins first rest here =>
          cases List.mem_singleton.mp touched
          have member := owned.rest joins _ here socket List.mem_cons_self
          exact ⟨List.mem_append_left _ member, owned.registered_open member⟩
      · exact ⟨List.mem_append_right _ touched,
          owned.owned_open (List.mem_append_right _ touched)⟩
      · cases touched
  | acceptor answer =>
      simp only [CoordinatorServer.touches] at touched
      split at touched
      · next pending here =>
          split at touched
          · cases List.mem_singleton.mp touched
            have mine : socket ∈ server.acceptor.pending := by
              rw [here]
              exact List.mem_cons_self
            exact ⟨mine,
              owned.owned_open (List.mem_append_left _ (List.mem_append_right _ mine))⟩
          · cases touched
      · cases touched
  | session id answer =>
      simp only [CoordinatorServer.touches] at touched
      split at touched
      · next thread found =>
          split at touched
          · next here =>
              cases List.mem_singleton.mp touched
              have owns : thread.point.owns = true := by
                rcases here with here | here <;> rw [here] <;> rfl
              refine ⟨by simp [CoordinatorServer.holdings, found], ?_⟩
              refine owned.owned_open (List.mem_append_left _ (List.mem_append_left _ ?_))
              exact Pool.mem_chosen.mpr ⟨thread, List.mem_of_getElem? found, owns, rfl⟩
          · cases touched
      · cases touched
  | start | stop | join => cases touched

end Touching

/--
In every interleaving of the owner, the accept thread and the session threads: a
socket is open exactly while one thread still has to close it, or it is the one
listener that a start overwrote because the accept thread had been stopped but not
joined. All of them are different, and a step shuts down or closes only an open
socket of its own or, for the owner, one that a session has in the table.
-/
theorem sockets_have_owners (maxSessions : Nat) (events : List ServerEvent) :
    ((Runs.run step { maxSessions } events).owned ++
        (Runs.run step { maxSessions } events).lost).Nodup ∧
      (∀ socket, (Runs.run step { maxSessions } events).sockets socket ≠ .closed ↔
        socket ∈ (Runs.run step { maxSessions } events).owned ++
          (Runs.run step { maxSessions } events).lost) ∧
      ((Runs.run step { maxSessions } events).lost = [] ∨
        (Runs.run step { maxSessions } events).lost.length = 1 ∧
          (Runs.run step { maxSessions } events).acceptor = .finished) ∧
      ∀ event, ∀ socket ∈ (Runs.run step { maxSessions } events).touches event,
        socket ∈ (Runs.run step { maxSessions } events).holdings event ∧
          (Runs.run step { maxSessions } events).sockets socket ≠ .closed := by
  have sound := sound_run maxSessions events
  generalize Runs.run step { maxSessions } events = server at sound ⊢
  refine ⟨sound.owned.once, sound.owned.exactly, ?_,
    fun event socket touched => sound.owned.touches touched⟩
  by_cases lost : server.lost = []
  · exact .inl lost
  · obtain ⟨finished, short, _⟩ := sound.phased.whole lost
    exact .inr ⟨Nat.le_antisymm short (List.length_pos_iff.mpr lost), finished⟩

section Bound

variable {server after : CoordinatorServer}

theorem CoordinatorServer.Move.maxSessions {event : ServerEvent} (moves : Move server event after) :
    after.maxSessions = server.maxSessions := by
  have shut (socket : SocketHandle) :
      (server.shutdownSocket socket).maxSessions = server.maxSessions := by
    obtain ⟨sockets, same, _⟩ := server.shutdownSocket_frame socket
    rw [same]
  cases moves with
  | called outside moves => cases moves <;> rfl
  | owner moves =>
      cases moves with
      | shut here => exact shut _
      | closed here =>
          obtain ⟨sockets, same, _⟩ := server.closeListener_frame
          rw [same]
      | _ => rfl
  | acceptor moves => cases moves <;> rfl
  | session found moves =>
      cases moves with
      | shut here => exact shut _
      | _ => rfl

/-- A session thread whose end nobody has noticed yet is one of the bounded sessions. -/
theorem CoordinatorServer.Tracked.undone {id : Nat} {thread : ServeThread}
    (tracked : server.Tracked) (found : server.threads[id]? = some thread)
    (undone : thread.point.isDone = false) : id ∈ server.sessions ++ server.owner.joins := by
  rcases tracked.joined id thread found with ended | held | joins | joins
  · rw [ended] at undone
    cases undone
  · exact List.mem_append_left _ held
  · have done := tracked.pruned id joins
    rw [Tracked.threadDone_eq found, undone] at done
    cases done
  · exact List.mem_append_right _ joins

theorem CoordinatorServer.Tracked.chosen_le {keep : ServeThread → Bool} (tracked : server.Tracked)
    (keeps : ∀ thread, keep thread = true → thread.point.isDone = false) :
    (Pool.chosen keep ServeThread.socket server.threads).length ≤ server.maxSessions := by
  have listed := Pool.chosen_length_le ServeThread.socket
    fun id thread found kept => tracked.undone found (keeps thread kept)
  rw [List.length_append] at listed
  exact Nat.le_trans listed tracked.bounded

end Bound

/--
In every interleaving the server counts its active sessions right, and never has
more than its bound of them, nor more open sockets than that and two: the listener,
and the connection it is about to decide on or the listener that it has lost.
-/
theorem sessions_stay_bounded (maxSessions : Nat) (events : List ServerEvent) :
    (Runs.run step { maxSessions } events).activeSessions =
        (Runs.run step { maxSessions } events).counted.length ∧
      (Runs.run step { maxSessions } events).activeSessions ≤ maxSessions ∧
      (Runs.run step { maxSessions } events).sessionSockets.length ≤ maxSessions ∧
      ((Runs.run step { maxSessions } events).owned ++
        (Runs.run step { maxSessions } events).lost).length ≤ maxSessions + 2 := by
  have sound := sound_run maxSessions events
  have same : (Runs.run step { maxSessions } events).maxSessions = maxSessions :=
    Runs.invariant (fun server event held => step_of_moves held
      (fun _ _ _ moves => moves.maxSessions.trans held) event) rfl events
  generalize Runs.run step { maxSessions } events = server at sound same ⊢
  have undone (keep : ServePoint → Bool) (never : keep .ending = false ∧ keep .finished = false)
      (thread : ServeThread) (kept : keep thread.point = true) : thread.point.isDone = false := by
    cases point : thread.point with
    | ending =>
        rw [point, never.1] at kept
        cases kept
    | finished =>
        rw [point, never.2] at kept
        cases kept
    | _ => rfl
  have active := sound.tracked.chosen_le (undone ServePoint.counted ⟨rfl, rfl⟩)
  have registered := sound.tracked.chosen_le (undone ServePoint.registered ⟨rfl, rfl⟩)
  have owning := sound.tracked.chosen_le (undone ServePoint.owns ⟨rfl, rfl⟩)
  rw [same] at active registered owning
  refine ⟨sound.tracked.active, ?_, ?_, ?_⟩
  · rw [sound.tracked.active]
    exact active
  · rw [sound.owned.registry.length_eq]
    exact registered
  · have extra : server.acceptor.pending.length + server.lost.length ≤ 1 := by
      by_cases lost : server.lost = []
      · rw [lost]
        cases server.acceptor <;> first | exact Nat.zero_le _ | exact Nat.le_refl _
      · obtain ⟨finished, short, _⟩ := sound.phased.whole lost
        rw [finished]
        exact (Nat.zero_add _).trans_le short
    have listener : server.listener.toList.length ≤ 1 := by
      cases server.listener <;> simp
    rw [owned_eq, List.length_append, List.length_append, List.length_append]
    omega

/-- A service to take a step with. -/
def CoordinatorServer.silentService : CoordinatorService where
  onHello _ := ({}, .null)
  onRegisterPublisher _ := {}
  onMutation _ := { outcome := {} }
  onQuery _ := { outcome := {} }
  onFence _ := {}

namespace ServerRuns

/-- The session thread takes its next step; the peer sends nothing and is gone. -/
def turn (thread : Nat) : ServerEvent :=
  .session thread { readiness := .failed "gone", service := silentService }

/-- The accept thread takes these steps and nothing arrives. -/
def accepts (steps : Nat) : List ServerEvent := List.replicate steps (.acceptor .stopped)

/-- The server takes a connection and starts a session for it. -/
def oneSession : List ServerEvent :=
  [.start (.listening 3)] ++ accepts 4 ++ [.acceptor (.connection 7)] ++ accepts 2

/-- The session ends while the accept thread waits for the connection that comes next. -/
def sessionEnds : List ServerEvent :=
  oneSession ++ accepts 4 ++ List.replicate 15 (turn 0) ++
    [.acceptor (.connection 8), .acceptor .stopped]

end ServerRuns

set_option maxRecDepth 100000 in
/-- A session that has ended still counts against the next connection, which is closed. -/
theorem ended_session_refuses :
    (Runs.run step { maxSessions := 1 } ServerRuns.sessionEnds).activeSessions = 0 ∧
      (Runs.run step { maxSessions := 1 } ServerRuns.sessionEnds).touches (.acceptor .stopped) =
        [8] := by
  decide +kernel

end PortFabric
