import PortFabric.Guarantees.SocketHygiene
import PortFabric.Library.Histories

/-!
# Clean shutdown

Once `join` has signalled the stop handle, the threads of the server can take a
bounded number of steps only, none of them waits for another forever, and at the
end everything is joined and closed.
-/

set_option autoImplicit false

namespace PortFabric

/-- How far the owner is from the end of its call, with the sockets in the table. -/
def ControlPoint.remaining (sockets : Nat) : ControlPoint → Nat
  | outside => 0
  | requesting _ => 9 + sockets
  | signalling _ => 8 + sockets
  | locking _ => 7 + sockets
  | shutting _ rest => 6 + rest.length
  | joiningAccept => 5
  | swapping => 4
  | detaching => 3
  | joining rest => 2 + rest.length
  | closing => 1

theorem ControlPoint.remaining_le (before after : Nat) (owner : ControlPoint) :
    owner.remaining after ≤ owner.remaining before + (after - before) := by
  cases owner <;> simp only [remaining] <;> omega

namespace CoordinatorServer

variable {server after : CoordinatorServer}

def remainingThreads (server : CoordinatorServer) : Nat :=
  Pool.total (fun thread => thread.point.remaining) server.threads

/-- The steps that are left at most once the server is to stop. -/
def remaining (server : CoordinatorServer) : Nat :=
  server.remainingThreads + server.acceptor.remaining +
    server.owner.remaining server.sessionSockets.length + server.sessions.length

/-- The stop is requested and signalled. -/
def Stopping (server : CoordinatorServer) : Prop :=
  server.stopRequested = true ∧ server.raised server.stop = true

section Decreasing

/-- A session thread comes nearer to its end, by more than the table of sockets grows. -/
theorem remaining_withThread {id : Nat} {thread next : ServeThread}
    (found : server.threads[id]? = some thread)
    (threads : after.threads = server.threads.set id next)
    (acceptor : after.acceptor = server.acceptor) (owner : after.owner = server.owner)
    (sessions : after.sessions = server.sessions)
    (nears : next.point.remaining +
      (after.sessionSockets.length - server.sessionSockets.length) < thread.point.remaining) :
    after.remaining < server.remaining := by
  have total := @Pool.total_set _ _ _ thread next (fun member => member.point.remaining) found
  have grown := server.owner.remaining_le server.sessionSockets.length
    after.sessionSockets.length
  simp only [remaining, remainingThreads, threads, acceptor, owner, sessions]
  omega

theorem ServeMove.nears {id : Nat} {thread : ServeThread} (heeding : server.Heeding)
    (alive : server.terminated = false) (stopping : server.Stopping)
    (found : server.threads[id]? = some thread) (moves : ServeMove server id thread after) :
    after.remaining < server.remaining := by
  have still {next : Nat} (nears : next < thread.point.remaining) :
      next + (server.sessionSockets.length - server.sessionSockets.length) <
        thread.point.remaining := by
    rwa [Nat.sub_self]
  cases moves with
  | walked walks =>
      refine remaining_withThread found rfl rfl rfl rfl (still (walks.nears stopping.1 ?_))
      intro waiting
      have given : server.stop.isSome = true := by
        have raised := stopping.2
        cases stop : server.stop with
        | some => rfl
        | none =>
            rw [stop] at raised
            cases raised
      rw [heeding alive given thread (List.mem_of_getElem? found) waiting]
      exact stopping.2
  | entered here | closed here | left here =>
      exact remaining_withThread found rfl rfl rfl rfl
        (still (by rw [here]; exact Nat.lt_succ_self _))
  | locked free here =>
      rcases here with ⟨here, rfl⟩ | ⟨here, rfl⟩ <;>
        exact remaining_withThread found rfl rfl rfl rfl
          (still (by rw [here]; exact Nat.lt_succ_self _))
  | inserted here =>
      refine remaining_withThread found rfl rfl rfl rfl ?_
      rw [here, List.length_append]
      simp only [ServePoint.remaining, List.length_singleton]
      omega
  | erased here =>
      have fewer := List.length_erase_le (a := thread.socket) (l := server.sessionSockets)
      refine remaining_withThread found rfl rfl rfl rfl ?_
      rw [here]
      simp only [ServePoint.remaining]
      omega
  | shut here =>
      obtain ⟨sockets, same, _⟩ := server.shutdownSocket_frame thread.socket
      rw [same]
      exact remaining_withThread found rfl rfl rfl rfl
        (still (by rw [here]; exact Nat.lt_succ_self _))

theorem AcceptMove.nears (stopping : server.Stopping) (moves : AcceptMove server after) :
    after.remaining < server.remaining := by
  have nearer {acceptor : AcceptPoint} (nears : acceptor.remaining < server.acceptor.remaining) :
      server.remainingThreads + acceptor.remaining +
          server.owner.remaining server.sessionSockets.length + server.sessions.length <
        server.remaining := by
    simp only [remaining]
    omega
  cases moves with
  | walked _ _ _ _ _ _ nears => exact nearer (nears stopping.1)
  | left here | took here _ =>
      exact nearer (by rw [here]; exact Nat.lt_succ_self _)
  | locked free here =>
      rcases here with ⟨here, rfl⟩ | ⟨_, here, rfl⟩ <;>
        exact nearer (by rw [here]; exact Nat.lt_succ_self _)
  | refused here full => exact nearer (by rw [here]; simp [AcceptPoint.remaining])
  | collected here =>
      have split := List.length_eq_length_filter_add server.threadDone (l := server.sessions)
      simp only [remaining, here, AcceptPoint.remaining]
      change server.remainingThreads + _ + server.owner.remaining _ + _ < _
      omega
  | @admitted socket here room =>
      simp only [remaining, remainingThreads, here, AcceptPoint.remaining, Pool.total_append,
        Pool.total, List.length_append, List.length_cons, List.length_nil, ServePoint.remaining]
      omega

theorem OwnerMove.nears (moves : OwnerMove server after) : after.remaining < server.remaining := by
  have nearer {owner : ControlPoint}
      (nears : owner.remaining server.sessionSockets.length <
        server.owner.remaining server.sessionSockets.length) :
      server.remainingThreads + server.acceptor.remaining +
          owner.remaining server.sessionSockets.length + server.sessions.length <
        server.remaining := by
    simp only [remaining]
    omega
  cases moves with
  | requested here | signalled here | lockedSockets _ here | lockedSessions _ here | alone here
  | joined here _ =>
      exact nearer (by rw [here]; simp [ControlPoint.remaining])
  | closed here =>
      obtain ⟨sockets, same, _⟩ := server.closeListener_frame
      rw [same]
      exact nearer (by rw [here]; exact Nat.lt_succ_self _)
  | @shut joins socket rest here =>
      obtain ⟨sockets, same, _⟩ := server.shutdownSocket_frame socket
      rw [same]
      exact nearer (by rw [here]; exact Nat.lt_succ_self _)
  | @released joins here =>
      exact nearer (by rw [here]; cases joins <;> simp [ControlPoint.remaining])
  | joinedAcceptor here past =>
      simp only [remaining, here, ControlPoint.remaining, AcceptPoint.remaining]
      change server.remainingThreads + _ + _ + server.sessions.length < _
      omega
  | detached here =>
      simp only [remaining, here, ControlPoint.remaining, List.length_nil]
      change server.remainingThreads + server.acceptor.remaining + _ + _ < _
      omega

end Decreasing

end CoordinatorServer

/-- The owner begins a call. -/
def ServerEvent.isCall : ServerEvent → Bool
  | start _ | stop | join => true
  | _ => false

namespace CoordinatorServer

variable {server after : CoordinatorServer}

/-- The owner is outside again, and everything is joined and closed. -/
structure Stopped (server : CoordinatorServer) : Prop where
  outside : server.owner = .outside
  unheard : server.listener = none
  halted : server.running = false
  absent : server.acceptor = .absent
  finished : ∀ thread ∈ server.threads, thread.point = .finished
  sessionSockets : server.sessionSockets = []
  activeSessions : server.activeSessions = 0
  sockets : ∀ socket, server.sockets socket = .closed
  mutex : server.mutex = none

section Ending

theorem chosen_finished {keep : ServePoint → Bool} (never : keep .finished = false)
    (finished : ∀ thread ∈ server.threads, thread.point = .finished) :
    Pool.chosen (fun thread => keep thread.point) ServeThread.socket server.threads = [] := by
  refine List.eq_nil_iff_forall_not_mem.mpr fun socket member => ?_
  obtain ⟨thread, present, kept, _⟩ := Pool.mem_chosen.mp member
  rw [finished thread present, never] at kept
  cases kept

theorem Sound.stopped (sound : server.Sound) (outside : server.owner = .outside)
    (unheard : server.listener = none) (whole : server.lost = []) : server.Stopped := by
  have absent := sound.phased.idle whole unheard
  have finished (thread : ServeThread) (member : thread ∈ server.threads) :
      thread.point = .finished := sound.tracked.all_finished outside absent member
  have owned : server.owned ++ server.lost = [] := by
    rw [owned_eq, absent, chosen_finished rfl finished, unheard, whole]
    rfl
  refine ⟨outside, unheard, sound.phased.unheard unheard, absent, finished, ?_, ?_, ?_, ?_⟩
  · have registry := sound.owned.registry
    rw [registry_eq, chosen_finished rfl finished] at registry
    exact registry.eq_nil
  · rw [sound.tracked.active, counted, chosen_finished rfl finished]
    rfl
  · intro socket
    have exactly := sound.owned.exactly socket
    rw [owned] at exactly
    simpa using exactly
  · cases holder : server.mutex with
    | none => rfl
    | some party =>
        cases party with
        | owner =>
            have holds := sound.locked.owner.mp holder
            rw [outside] at holds
            cases holds
        | acceptor =>
            have holds := sound.locked.acceptor.mp holder
            rw [absent] at holds
            cases holds
        | session id =>
            obtain ⟨thread, found, holds⟩ := (sound.locked.session id).mp holder
            rw [finished thread (List.mem_of_getElem? found)] at holds
            cases holds

/-- Nothing happens any more until the owner calls. -/
theorem Stopped.rests (stopped : server.Stopped) {event : ServerEvent}
    (inside : event.isCall = false) : server.advance event = none := by
  unfold advance
  split
  · rfl
  cases event with
  | start | stop | join => cases inside
  | owner => simp only [ownerStep, stopped.outside]
  | acceptor answer => simp only [acceptStep, stopped.absent]
  | session id answer =>
      cases found : server.threads[id]? with
      | none => simp only [found, Option.bind_none]
      | some thread =>
          have finished := stopped.finished thread (List.mem_of_getElem? found)
          simp only [found, Option.bind_some, serveStep, finished]

/-- A `join` is on its way behind the signal, or it is over. -/
structure Ending (server : CoordinatorServer) : Prop where
  sound : server.Sound
  under : server.owner.announced = true ∨ server.Stopped

theorem announced_asked {owner : ControlPoint} (announced : owner.announced = true) :
    owner.asked = true := by
  cases owner <;> first | rfl | cases announced

theorem Ending.stopping (ending : server.Ending) {event : ServerEvent}
    (advanced : server.advance event = some after) (inside : event.isCall = false) :
    server.owner.announced = true ∧ server.Stopping := by
  rcases ending.under with announced | stopped
  · exact ⟨announced, ending.sound.phased.asked (announced_asked announced),
      ending.sound.phased.announced announced⟩
  · rw [stopped.rests inside] at advanced
    cases advanced

theorem Ending.move (ending : server.Ending) {event : ServerEvent}
    (advanced : server.advance event = some after) (inside : event.isCall = false) :
    after.Ending := by
  obtain ⟨announced, _⟩ := ending.stopping advanced inside
  obtain ⟨alive, moves⟩ := advance_moves advanced
  have sound := ending.sound.move alive moves
  refine ⟨sound, ?_⟩
  cases moves with
  | called outside =>
      rw [outside] at announced
      cases announced
  | session found moves =>
      cases moves with
      | shut here =>
          obtain ⟨sockets, same, _⟩ := server.shutdownSocket_frame _
          rw [same]
          exact .inl announced
      | _ => exact .inl announced
  | acceptor moves => cases moves <;> exact .inl announced
  | owner moves =>
      cases moves with
      | requested here | signalled here =>
          rw [here] at announced
          cases announced
      | lockedSockets free here =>
          rw [here] at announced
          exact .inl announced
      | @shut joins socket rest here =>
          rw [here] at announced
          obtain ⟨sockets, same, _⟩ := server.shutdownSocket_frame socket
          rw [same]
          exact .inl announced
      | @released joins here =>
          rw [here] at announced
          cases announced
          exact .inl rfl
      | joinedAcceptor | lockedSessions | detached | joined | alone => exact .inl rfl
      | closed here =>
          have whole := ending.sound.phased.kept alive (by rw [here]; rfl)
          obtain ⟨sockets, same, _⟩ := server.closeListener_frame
          rw [same] at sound ⊢
          exact .inr (sound.stopped rfl rfl whole)

theorem Ending.nears (ending : server.Ending) {event : ServerEvent}
    (advanced : server.advance event = some after) (inside : event.isCall = false) :
    after.remaining < server.remaining := by
  obtain ⟨announced, stopping⟩ := ending.stopping advanced inside
  obtain ⟨alive, moves⟩ := advance_moves advanced
  cases moves with
  | called outside =>
      rw [outside] at announced
      cases announced
  | owner moves => exact moves.nears
  | acceptor moves => exact moves.nears stopping
  | session found moves => exact moves.nears ending.sound.heeding alive stopping found

end Ending

/-- The step happens without anything from the peers: its thread does not block on them. -/
def Guaranteed (server : CoordinatorServer) : ServerEvent → Prop
  | .start _ | .stop | .join => False
  | .owner => True
  | .acceptor answer => server.acceptor = .accepting → answer = .stopped
  | .session id _ => ∀ thread, server.threads[id]? = some thread → thread.point = .sending →
      server.sockets thread.socket = .shut

section Progress

theorem locked_of_free (free : server.mutex = none) (party : ServerParty)
    (entered : CoordinatorServer) :
    server.locked party entered = some { entered with mutex := some party } := by
  rw [locked, free]
  rfl

theorem advance_owner (alive : server.terminated = false) :
    server.advance .owner = server.ownerStep := by
  simp [advance, alive]

theorem advance_acceptor (alive : server.terminated = false) (answer : AcceptAnswer) :
    server.advance (.acceptor answer) = server.acceptStep answer := by
  simp [advance, alive]

theorem advance_session {id : Nat} {thread : ServeThread} (alive : server.terminated = false)
    (answer : ServeAnswer) (found : server.threads[id]? = some thread) :
    server.advance (.session id answer) = server.serveStep id thread answer := by
  simp [advance, alive, found]

/-- Whoever is inside a section of the mutex can leave it. -/
theorem Locked.free (locked : server.Locked) (alive : server.terminated = false)
    (still : ∀ event, server.Guaranteed event → server.advance event = none) :
    server.mutex = none := by
  cases holder : server.mutex with
  | none => rfl
  | some party =>
      exfalso
      cases party with
      | owner =>
          have blocked := still .owner trivial
          have holds := locked.owner.mp holder
          simp only [advance_owner alive, ownerStep] at blocked
          cases owner : server.owner with
          | shutting joins rest => cases rest <;> simp [owner] at blocked
          | detaching => simp [owner] at blocked
          | _ =>
              rw [owner] at holds
              cases holds
      | acceptor =>
          have holds := locked.acceptor.mp holder
          have blocked := still (.acceptor .stopped) fun _ => rfl
          simp only [advance_acceptor alive, acceptStep] at blocked
          cases acceptor : server.acceptor with
          | collecting => simp [acceptor] at blocked
          | deciding socket =>
              simp only [acceptor] at blocked
              split at blocked <;> cases blocked
          | _ =>
              rw [acceptor] at holds
              cases holds
      | session id =>
          obtain ⟨thread, found, holds⟩ := (locked.session id).mp holder
          have guaranteed : server.Guaranteed (.session id { service := silentService }) := by
            intro other same sends
            cases found.symm.trans same
            rw [sends] at holds
            cases holds
          have blocked := still _ guaranteed
          rw [advance_session alive _ found, serveStep] at blocked
          cases point : thread.point with
          | inserting | erasing => simp [point] at blocked
          | _ =>
              rw [point] at holds
              cases holds

/-- Inside a call the process is not terminated. -/
theorem Phased.alive (phased : server.Phased) (announced : server.owner.announced = true) :
    server.terminated = false := by
  by_contra ended
  rw [(phased.ended (by simpa using ended)).1] at announced
  cases announced

theorem Sound.finished (sound : server.Sound) (announced : server.owner.announced = true)
    (still : ∀ event, server.Guaranteed event → server.advance event = none) :
    ∀ thread ∈ server.threads, thread.point = .finished := by
  intro thread member
  obtain ⟨id, found⟩ := List.getElem?_of_mem member
  have alive := sound.phased.alive announced
  have free := sound.locked.free alive still
  have shut (sends : thread.point = .sending) : server.sockets thread.socket = .shut := by
    have looping : thread.point.looping = true := by rw [sends]; rfl
    have blocked := still .owner trivial
    simp only [advance_owner alive, ownerStep] at blocked
    cases owner : server.owner with
    | outside | requesting | signalling =>
        rw [owner] at announced
        cases announced
    | locking joins => simp [owner, locked_of_free free] at blocked
    | shutting joins rest => cases rest <;> simp [owner] at blocked
    | joiningAccept | swapping | detaching | joining | closing =>
        rcases sound.silenced [] (by rw [owner]; rfl) thread member looping with shut | pending
        · exact shut
        · cases pending
  have guaranteed : server.Guaranteed (.session id { service := silentService }) := by
    intro other same sends
    cases found.symm.trans same
    exact shut sends
  have blocked := still _ guaranteed
  rw [advance_session alive _ found, serveStep] at blocked
  cases point : thread.point with
  | finished => rfl
  | registering | unregistering => simp [point, locked_of_free free] at blocked
  | _ => simp [point] at blocked

theorem Tracked.ended {id : Nat} (tracked : server.Tracked)
    (finished : ∀ thread ∈ server.threads, thread.point = .finished)
    (listed : id ∈ server.sessions ∨ id ∈ server.acceptor.joins ∨ id ∈ server.owner.joins) :
    server.threadFinished id = true := by
  have bound := tracked.known id listed
  exact Tracked.threadFinished_eq_true.mpr ⟨server.threads.get ⟨id, bound⟩,
    List.getElem?_eq_getElem bound, finished _ (List.get_mem ..)⟩

theorem Sound.acceptorEnded (sound : server.Sound) (announced : server.owner.announced = true)
    (still : ∀ event, server.Guaranteed event → server.advance event = none) :
    server.acceptor = .absent ∨ server.acceptor = .finished := by
  have alive := sound.phased.alive announced
  have free := sound.locked.free alive still
  have finished := sound.finished announced still
  have signalled := sound.phased.announced announced
  have blocked := still (.acceptor .stopped) fun _ => rfl
  simp only [advance_acceptor alive, acceptStep] at blocked
  cases acceptor : server.acceptor with
  | absent => exact .inl rfl
  | finished => exact .inr rfl
  | pruning | admitting => simp [acceptor, locked_of_free free] at blocked
  | accepting => simp [acceptor, signalled] at blocked
  | deciding socket =>
      simp only [acceptor] at blocked
      split at blocked <;> cases blocked
  | joining rest =>
      cases rest with
      | nil => simp [acceptor] at blocked
      | cons id rest =>
          have ended := sound.tracked.ended finished
            (.inr (.inl (by rw [acceptor]; exact List.mem_cons_self)))
          simp [acceptor, ended] at blocked
  | checking | collecting | leaving => simp [acceptor] at blocked

/-- As long as `join` is not over, some thread can take a step that no peer can hold up. -/
theorem Sound.proceeds (sound : server.Sound) (announced : server.owner.announced = true) :
    ∃ event, server.Guaranteed event ∧ server.advance event ≠ none := by
  by_contra stuck
  have still (event : ServerEvent) (guaranteed : server.Guaranteed event) :
      server.advance event = none := by
    by_contra moves
    exact stuck ⟨event, guaranteed, moves⟩
  have alive := sound.phased.alive announced
  have free := sound.locked.free alive still
  have finished := sound.finished announced still
  have past := sound.acceptorEnded announced still
  have blocked := still .owner trivial
  simp only [advance_owner alive, ownerStep] at blocked
  cases owner : server.owner with
  | outside | requesting | signalling =>
      rw [owner] at announced
      cases announced
  | locking | swapping => simp [owner, locked_of_free free] at blocked
  | shutting joins rest => cases rest <;> simp [owner] at blocked
  | joiningAccept => simp [owner, past] at blocked
  | joining rest =>
      cases rest with
      | nil => simp [owner] at blocked
      | cons id rest =>
          have ended := sound.tracked.ended finished
            (.inr (.inr (by rw [owner]; exact List.mem_cons_self)))
          simp [owner, ended] at blocked
  | detaching | closing => simp [owner] at blocked

/-- The bound on the steps of an ending server, and how it ends. -/
theorem Ending.returns (ending : server.Ending) (later : List ServerEvent)
    (effective : Runs.Along step
      (fun server event => event.isCall = false ∧ (server.advance event).isSome = true)
      server later) :
    later.length ≤ server.remaining ∧
      ((∀ event, (Runs.run step server later).Guaranteed event →
          (Runs.run step server later).advance event = none) →
        (Runs.run step server later).Stopped) := by
  induction later generalizing server with
  | nil =>
      refine ⟨Nat.zero_le _, fun still => ?_⟩
      rcases ending.under with announced | stopped
      · obtain ⟨event, guaranteed, moves⟩ := ending.sound.proceeds announced
        exact absurd (still event guaranteed) moves
      · exact stopped
  | cons event rest ih =>
      obtain ⟨⟨inside, advances⟩, along⟩ := effective
      obtain ⟨after, advanced⟩ := Option.isSome_iff_exists.mp advances
      have stepped : server.step event = after := by rw [CoordinatorServer.step, advanced]; rfl
      rw [stepped] at along
      rw [Runs.run_cons, stepped]
      obtain ⟨short, stops⟩ := ih (ending.move advanced inside) along
      have nears := ending.nears advanced inside
      refine ⟨?_, stops⟩
      rw [List.length_cons]
      omega

end Progress

section Restarting

theorem Sound.join_at_once (sound : server.Sound) (outside : server.owner = .outside)
    (unheard : server.listener = none) : server.advance .join = some server := by
  have alive : server.terminated = false := by
    by_contra ended
    have heard := (sound.phased.ended (by simpa using ended)).2
    rw [unheard] at heard
    cases heard
  have stop : server.stop = none := by
    have paired := sound.phased.paired
    rw [unheard] at paired
    simpa using paired
  simp [advance, callStep, alive, outside, unheard, stop]

/-- The lost listener is the one thing that stays open without a listener to close. -/
theorem Sound.stopped_iff (sound : server.Sound) (outside : server.owner = .outside)
    (unheard : server.listener = none) : server.Stopped ↔ server.lost = [] := by
  refine ⟨fun stopped => ?_, sound.stopped outside unheard⟩
  refine List.eq_nil_iff_forall_not_mem.mpr fun socket member => ?_
  exact (sound.owned.exactly socket).mpr (List.mem_append_right _ member)
    (stopped.sockets socket)

end Restarting

end CoordinatorServer

open CoordinatorServer

/--
However the threads of the server got where they are: once `join` has signalled
the stop handle they can take a bounded number of steps only, whatever the peers
do. When none is left that happens without the peers, `join` is over, every
thread has ended, and every socket is closed. A `join` that finds no listener
returns at once, and then the same is true unless a start has lost a listener.
-/
theorem join_returns (maxSessions : Nat) (events : List ServerEvent) :
    ((Runs.run step { maxSessions } events).owner.announced = true → ∀ later,
      Runs.Along step
        (fun server event => event.isCall = false ∧ (server.advance event).isSome = true)
        (Runs.run step { maxSessions } events) later →
      later.length ≤ (Runs.run step { maxSessions } events).remaining ∧
        ((∀ event, (Runs.run step { maxSessions } (events ++ later)).Guaranteed event →
            (Runs.run step { maxSessions } (events ++ later)).advance event = none) →
          (Runs.run step { maxSessions } (events ++ later)).Stopped)) ∧
    ((Runs.run step { maxSessions } events).owner = .outside →
      (Runs.run step { maxSessions } events).listener = none →
      (Runs.run step { maxSessions } events).advance .join =
          some (Runs.run step { maxSessions } events) ∧
        ((Runs.run step { maxSessions } events).Stopped ↔
          (Runs.run step { maxSessions } events).lost = [])) := by
  have sound := sound_run maxSessions events
  refine ⟨fun announced later effective => ?_, fun outside unheard => ?_⟩
  · rw [Runs.run_append]
    exact (Ending.mk sound (.inl announced)).returns later effective
  · generalize Runs.run step { maxSessions } events = server at sound outside unheard ⊢
    exact ⟨sound.join_at_once outside unheard, sound.stopped_iff outside unheard⟩

namespace ServerRuns

/-- A session waits for a frame when the owner joins. -/
def joined : List ServerEvent :=
  oneSession ++ List.replicate 6 (turn 0) ++ [.join, .owner, .owner]

/-- The session leaves its loop, the accept thread its own, and the owner joins both. -/
def later : List ServerEvent :=
  List.replicate 3 .owner ++ List.replicate 10 (turn 0) ++ accepts 2 ++ List.replicate 6 .owner

/-- The server is stopped and, without a `join`, started again where it cannot listen. -/
def restarted : List ServerEvent :=
  [.start (.listening 3), .stop] ++ List.replicate 4 .owner ++ accepts 2 ++ [.start .refused]

end ServerRuns

set_option maxRecDepth 100000 in
/-- A server with one session is joined in twenty-one steps. -/
theorem one_session_joined :
    ServerRuns.later.length ≤
        (Runs.run step { maxSessions := 1 } ServerRuns.joined).remaining ∧
      ((∀ event, (Runs.run step { maxSessions := 1 }
            (ServerRuns.joined ++ ServerRuns.later)).Guaranteed event →
          (Runs.run step { maxSessions := 1 }
            (ServerRuns.joined ++ ServerRuns.later)).advance event = none) →
        (Runs.run step { maxSessions := 1 }
          (ServerRuns.joined ++ ServerRuns.later)).Stopped) :=
  (join_returns 1 ServerRuns.joined).1 (by decide +kernel) ServerRuns.later (by decide +kernel)

set_option maxRecDepth 100000 in
/-- The listener of the first start stays open, and `join` has nothing to do. -/
example :
    (Runs.run step { maxSessions := 1 } (ServerRuns.restarted ++ [.join])).lost = [3] ∧
      (Runs.run step { maxSessions := 1 } (ServerRuns.restarted ++ [.join])).owner = .outside ∧
      (Runs.run step { maxSessions := 1 } (ServerRuns.restarted ++ [.join])).sockets 3 =
        .listening := by
  decide +kernel

end PortFabric
