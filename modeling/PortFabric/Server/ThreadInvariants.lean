import PortFabric.Server.ThreadProperties

/-!
# Invariants of the server threads

What the owner's call says of the whole server, who has the session mutex, and who
has which socket.
-/

set_option autoImplicit false

namespace PortFabric.CoordinatorServer

variable {server after : CoordinatorServer}

section Threads

variable {id : Nat} {thread : ServeThread}

@[simp] theorem withThread_threads : (server.withThread id thread).threads =
    server.threads.set id thread := rfl

@[simp] theorem walk_threads {point : ServePoint} : (server.walk id thread point).threads =
    server.threads.set id { thread with point } := rfl

theorem withSocket_sockets {socket other : SocketHandle} {state : SocketState} :
    (server.withSocket socket state).sockets other =
      if other = socket then state else server.sockets other := rfl

/-- A shutdown changes nothing but the state of sockets, and keeps the closed ones closed. -/
theorem shutdownSocket_frame (server : CoordinatorServer) (socket : SocketHandle) :
    ∃ sockets, server.shutdownSocket socket = { server with sockets } ∧
      (∀ other, sockets other = .closed ↔ server.sockets other = .closed) ∧
      (∀ other, server.sockets other = .shut → sockets other = .shut) ∧
      (server.sockets socket ≠ .closed → sockets socket = .shut) := by
  unfold shutdownSocket
  split
  · next closed => exact ⟨server.sockets, rfl, fun _ => Iff.rfl, fun _ => id, absurd closed⟩
  · next opened =>
      refine ⟨_, rfl, ?_, ?_, fun _ => if_pos rfl⟩
      · intro other
        split
        · next same => simp [same, opened]
        · rfl
      · intro other shut
        split
        · rfl
        · exact shut

/-- The close of the listener, as a change of the sockets. -/
theorem closeListener_frame (server : CoordinatorServer) :
    ∃ sockets, server.closeListener = { server with sockets } ∧
      ∀ other, sockets other =
        if server.listener = some other then .closed else server.sockets other := by
  unfold closeListener
  split
  · next socket listener =>
      refine ⟨_, rfl, fun other => ?_⟩
      simp only [listener, Option.some.injEq, eq_comm]
  · next listener => exact ⟨server.sockets, rfl, fun _ => by rw [listener]; rfl⟩

end Threads

/-- What is true of the whole server while the owner is at a point of its call. -/
structure Phased (server : CoordinatorServer) : Prop where
  asked : server.owner.asked = true → server.stopRequested = true
  heard : server.owner.ofJoin = true → server.listener.isSome = true
  paired : server.stop.isSome = server.listener.isSome
  announced : server.owner.announced = true → server.raised server.stop = true
  alone : server.owner.alone = true → server.acceptor = .absent
  manned : server.acceptor = .absent → server.listener.isSome = true →
    server.owner.alone = true
  halted : server.running = false → server.acceptor.active = false
  unheard : server.listener = none → server.running = false
  idle : server.lost = [] → server.listener = none → server.acceptor = .absent
  whole : server.lost ≠ [] → server.acceptor = .finished ∧ server.lost.length ≤ 1 ∧
    (server.terminated = false → server.listener = none)
  ended : server.terminated = true → server.owner = .outside ∧ server.listener.isSome = true

namespace Phased

/-- A step that leaves the accept thread where it is and the owner's members as they are. -/
theorem aside (phased : server.Phased) (stopRequested : after.stopRequested = server.stopRequested)
    (listener : after.listener = server.listener) (stop : after.stop = server.stop)
    (signalled : after.signalled = server.signalled) (running : after.running = server.running)
    (lost : after.lost = server.lost) (terminated : after.terminated = server.terminated)
    (owner : after.owner = server.owner) (acceptor : after.acceptor = server.acceptor) :
    after.Phased := by
  constructor
  · rw [owner, stopRequested]
    exact phased.asked
  · rw [owner, listener]
    exact phased.heard
  · rw [stop, listener]
    exact phased.paired
  · rw [owner, raised, stop, signalled]
    exact phased.announced
  · rw [owner, acceptor]
    exact phased.alone
  · rw [acceptor, listener, owner]
    exact phased.manned
  · rw [running, acceptor]
    exact phased.halted
  · rw [listener, running]
    exact phased.unheard
  · rw [lost, listener, acceptor]
    exact phased.idle
  · rw [lost, acceptor, terminated, listener]
    exact phased.whole
  · rw [terminated, owner, listener]
    exact phased.ended

theorem serve {id : Nat} {thread : ServeThread} (phased : server.Phased)
    (moves : ServeMove server id thread after) : after.Phased := by
  cases moves with
  | shut here =>
      obtain ⟨sockets, same, _⟩ := server.shutdownSocket_frame thread.socket
      rw [same]
      exact phased.aside rfl rfl rfl rfl rfl rfl rfl rfl rfl
  | walked | entered | locked | inserted | erased | closed | left =>
      exact phased.aside rfl rfl rfl rfl rfl rfl rfl rfl rfl

/-- While the accept thread runs, the server has its listener and has lost none. -/
theorem active (phased : server.Phased) (active : server.acceptor.active = true) :
    server.running = true ∧ server.listener ≠ none ∧ server.lost = [] ∧
      server.owner.alone = false := by
  have running : server.running = true := by
    by_contra halted
    rw [phased.halted (Bool.eq_false_iff.mpr halted)] at active
    cases active
  refine ⟨running, fun none => ?_, ?_, ?_⟩
  · rw [phased.unheard none] at running
    cases running
  · by_contra lost
    rw [(phased.whole lost).1] at active
    cases active
  · by_contra alone
    rw [phased.alone (by simpa using alone)] at active
    cases active

theorem accept (phased : server.Phased) (moves : AcceptMove server after) : after.Phased := by
  have busy (active : server.acceptor.active = true)
      (stopRequested : after.stopRequested = server.stopRequested)
      (listener : after.listener = server.listener) (stop : after.stop = server.stop)
      (signalled : after.signalled = server.signalled)
      (running : after.running = server.running ∨ after.acceptor = .finished)
      (lost : after.lost = server.lost) (terminated : after.terminated = server.terminated)
      (owner : after.owner = server.owner) (present : after.acceptor ≠ .absent) :
      after.Phased := by
    obtain ⟨runs, heard, whole, apart⟩ := phased.active active
    refine ⟨?_, ?_, ?_, ?_, ?_, fun absent => absurd absent present, ?_, ?_, ?_, ?_, ?_⟩
    · rw [owner, stopRequested]
      exact phased.asked
    · rw [owner, listener]
      exact phased.heard
    · rw [stop, listener]
      exact phased.paired
    · rw [owner, raised, stop, signalled]
      exact phased.announced
    · rw [owner, apart]
      exact Bool.noConfusion
    · intro halted
      rcases running with same | finished
      · rw [same, runs] at halted
        cases halted
      · rw [finished]
        rfl
    · rw [listener]
      exact fun none => absurd none heard
    · rw [listener]
      exact fun _ none => absurd none heard
    · rw [lost]
      exact fun some => absurd whole some
    · rw [terminated, owner, listener]
      exact phased.ended
  cases moves with
  | walked _ _ _ _ active stays => exact busy active rfl rfl rfl rfl (.inl rfl) rfl rfl rfl stays
  | left here =>
      exact busy (by rw [here]; rfl) rfl rfl rfl rfl (.inr rfl) rfl rfl rfl
        AcceptPoint.noConfusion
  | collected here | took here _ | refused here _ | admitted here _ =>
      exact busy (by rw [here]; rfl) rfl rfl rfl rfl (.inl rfl) rfl rfl rfl
        AcceptPoint.noConfusion
  | locked free here =>
      rcases here with ⟨here, rfl⟩ | ⟨_, here, rfl⟩ <;>
        exact busy (by rw [here]; rfl) rfl rfl rfl rfl (.inl rfl) rfl rfl rfl
          AcceptPoint.noConfusion

/-- The owner goes on inside its call, and neither the listener nor the accept thread change. -/
theorem goes (phased : server.Phased) (alive : server.terminated = false)
    (stopRequested : after.owner.asked = true → after.stopRequested = true)
    (ofJoin : after.owner.ofJoin = true → server.listener.isSome = true)
    (announced : after.owner.announced = true → after.raised server.stop = true)
    (alone : after.owner.alone = server.owner.alone)
    (listener : after.listener = server.listener) (stop : after.stop = server.stop)
    (running : after.running = server.running) (lost : after.lost = server.lost)
    (terminated : after.terminated = server.terminated)
    (acceptor : after.acceptor = server.acceptor) : after.Phased := by
  refine ⟨stopRequested, ?_, ?_, ?_, ?_, ?_, ?_, ?_, ?_, ?_, ?_⟩
  · rw [listener]
    exact ofJoin
  · rw [stop, listener]
    exact phased.paired
  · rw [stop]
    exact announced
  · rw [alone, acceptor]
    exact phased.alone
  · rw [acceptor, listener, alone]
    exact phased.manned
  · rw [running, acceptor]
    exact phased.halted
  · rw [listener, running]
    exact phased.unheard
  · rw [lost, listener, acceptor]
    exact phased.idle
  · rw [lost, acceptor, terminated, listener]
    exact phased.whole
  · rw [terminated, alive]
    exact Bool.noConfusion

/-- A server whose accept thread is joined has lost no listener. -/
theorem kept (phased : server.Phased) (alive : server.terminated = false)
    (heard : server.owner.ofJoin = true) : server.lost = [] := by
  by_contra lost
  have some := phased.heard heard
  rw [(phased.whole lost).2.2 alive] at some
  cases some

theorem control (phased : server.Phased) (alive : server.terminated = false)
    (moves : OwnerMove server after) : after.Phased := by
  have before := phased.asked
  have heard := phased.heard
  have announced := phased.announced
  have kept := phased.kept alive
  cases moves with
  | @requested joins here =>
      rw [here] at heard
      exact phased.goes alive (fun _ => rfl) heard Bool.noConfusion (by rw [here]; rfl) rfl rfl
        rfl rfl rfl rfl
  | @signalled joins here =>
      rw [here] at before heard
      refine phased.goes alive before heard ?_ (by rw [here]; rfl) rfl rfl rfl rfl rfl rfl
      intro given
      have paired := phased.paired
      rw [heard given] at paired
      obtain ⟨handle, found⟩ := Option.isSome_iff_exists.mp paired
      simp [raised, found]
  | @lockedSockets joins free here =>
      rw [here] at before heard announced
      exact phased.goes alive before heard announced (by rw [here]; rfl) rfl rfl rfl rfl rfl rfl
  | @shut joins socket rest here =>
      obtain ⟨sockets, same, _⟩ := server.shutdownSocket_frame socket
      rw [here] at before heard announced
      rw [same]
      exact phased.goes alive before heard announced (by rw [here]; rfl) rfl rfl rfl rfl rfl rfl
  | @released joins here =>
      rw [here] at before heard announced
      cases joins with
      | false =>
          exact phased.goes alive Bool.noConfusion Bool.noConfusion Bool.noConfusion
            (by rw [here]; rfl) rfl rfl rfl rfl rfl rfl
      | true =>
          exact phased.goes alive before heard announced (by rw [here]; rfl) rfl rfl rfl rfl rfl
            rfl
  | joinedAcceptor here past =>
      rw [here] at before heard announced kept
      exact ⟨before, heard, phased.paired, announced, fun _ => rfl, fun _ _ => rfl, fun _ => rfl,
        phased.unheard, fun _ _ => rfl, fun lost => absurd (kept rfl) lost,
        fun ended => Bool.noConfusion (alive.symm.trans ended)⟩
  | lockedSessions free here | detached here | joined here _ | alone here =>
      rw [here] at before heard announced
      exact phased.goes alive before heard announced (by rw [here]; rfl) rfl rfl rfl rfl rfl rfl
  | closed here =>
      obtain ⟨sockets, same, _⟩ := server.closeListener_frame
      have alone := phased.alone (by rw [here]; rfl)
      rw [here] at kept
      rw [same]
      refine ⟨Bool.noConfusion, Bool.noConfusion, rfl, Bool.noConfusion, Bool.noConfusion,
        fun _ => Bool.noConfusion, fun _ => ?_, fun _ => rfl, fun _ _ => alone,
        fun lost => absurd (kept rfl) lost,
        fun ended => Bool.noConfusion (alive.symm.trans ended)⟩
      dsimp only
      rw [alone]
      rfl

/-- The listener that a `start` without `join` overwrites is the only one that is lost. -/
theorem startOver_lost (phased : server.Phased) (alive : server.terminated = false)
    (outside : server.owner = .outside) (halted : server.running = false)
    (lost : server.startOver.lost ≠ []) :
    server.acceptor = .finished ∧ server.startOver.lost.length ≤ 1 := by
  by_cases whole : server.lost = []
  · cases listener : server.listener with
    | none => exact absurd (by simp [startOver, whole, listener]) lost
    | some socket =>
        refine ⟨?_, by simp [startOver, whole, listener]⟩
        have halted := phased.halted halted
        have manned := phased.manned
        rw [outside, listener] at manned
        cases acceptor : server.acceptor with
        | finished => rfl
        | absent => exact Bool.noConfusion (manned acceptor rfl)
        | _ =>
            rw [acceptor] at halted
            cases halted
  · obtain ⟨finished, short, unheard⟩ := phased.whole whole
    exact ⟨finished, by simpa [startOver, unheard alive] using short⟩

theorem call {event : ServerEvent} (phased : server.Phased) (alive : server.terminated = false)
    (outside : server.owner = .outside) (moves : CallMove server event after) :
    after.Phased := by
  have resting {holds : ControlPoint → Bool} (never : holds .outside = false) {claim : Prop} :
      holds server.owner = true → claim := by
    intro given
    rw [outside, never] at given
    cases given
  cases moves with
  | returned => exact phased
  | refused halted =>
      exact ⟨resting rfl, resting rfl, rfl, resting rfl, resting rfl, fun _ => Bool.noConfusion,
        phased.halted, fun _ => halted, fun none _ => phased.idle
          (List.append_eq_nil_iff.mp none).1 (Option.toList_eq_nil_iff.mp
            (List.append_eq_nil_iff.mp none).2),
        fun lost => ⟨(phased.startOver_lost alive outside halted lost).1,
          (phased.startOver_lost alive outside halted lost).2, fun _ => rfl⟩,
        fun ended => Bool.noConfusion (alive.symm.trans ended)⟩
  | @started _ socket halted fresh absent =>
      refine ⟨resting rfl, resting rfl, rfl, resting rfl, resting rfl, AcceptPoint.noConfusion,
        Bool.noConfusion, fun none => absurd none (Option.some_ne_none socket),
        fun _ none => absurd none (Option.some_ne_none socket), ?_, fun _ => ⟨outside, rfl⟩⟩
      intro lost
      have finished := (phased.startOver_lost alive outside halted lost).1
      rw [absent] at finished
      cases finished
  | @terminated _ socket halted fresh present =>
      exact ⟨resting rfl, resting rfl, rfl, resting rfl, resting rfl,
        fun absent => absurd absent present, Bool.noConfusion,
        fun none => absurd none (Option.some_ne_none socket),
        fun _ none => absurd none (Option.some_ne_none socket),
        fun lost => ⟨(phased.startOver_lost alive outside halted lost).1,
          (phased.startOver_lost alive outside halted lost).2, Bool.noConfusion⟩,
        fun _ => ⟨outside, rfl⟩⟩
  | stopping =>
      exact phased.goes alive Bool.noConfusion Bool.noConfusion Bool.noConfusion
        (by rw [outside]; rfl) rfl rfl rfl rfl rfl rfl
  | joining heard =>
      refine phased.goes alive Bool.noConfusion (fun _ => ?_) Bool.noConfusion
        (by rw [outside]; rfl) rfl rfl rfl rfl rfl rfl
      rcases heard with heard | stop
      · exact heard
      · rwa [← phased.paired]

theorem move (phased : server.Phased) (alive : server.terminated = false) {event : ServerEvent}
    (moves : Move server event after) : after.Phased := by
  cases moves with
  | called outside moves => exact phased.call alive outside moves
  | owner moves => exact phased.control alive moves
  | acceptor moves => exact phased.accept moves
  | session found moves => exact phased.serve moves

end Phased

/-- The mutex names the thread that is inside one of its sections. -/
structure Locked (server : CoordinatorServer) : Prop where
  session : ∀ id, server.mutex = some (.session id) ↔
    ∃ thread : ServeThread, server.threads[id]? = some thread ∧ thread.point.holds = true
  acceptor : server.mutex = some .acceptor ↔ server.acceptor.holds = true
  owner : server.mutex = some .owner ↔ server.owner.holds = true

namespace Locked

/-- Nothing that the mutex depends on changes. -/
theorem congr (locked : server.Locked) (mutex : after.mutex = server.mutex)
    (threads : after.threads = server.threads)
    (acceptor : after.acceptor.holds = server.acceptor.holds)
    (owner : after.owner.holds = server.owner.holds) : after.Locked := by
  constructor
  · rw [mutex, threads]
    exact locked.session
  · rw [mutex, acceptor]
    exact locked.acceptor
  · rw [mutex, owner]
    exact locked.owner

/-- A session thread moves, and the mutex goes with it. -/
theorem withThread {id : Nat} {thread next : ServeThread} (locked : server.Locked)
    (found : server.threads[id]? = some thread)
    (threads : after.threads = server.threads.set id next)
    (own : after.mutex = some (.session id) ↔ next.point.holds = true)
    (others : ∀ party, party ≠ .session id →
      (after.mutex = some party ↔ server.mutex = some party))
    (acceptor : after.acceptor = server.acceptor) (owner : after.owner = server.owner) :
    after.Locked := by
  refine ⟨?_, ?_, ?_⟩
  · intro other
    rw [threads]
    by_cases same : other = id
    · rw [same, own]
      simp [Pool.getElem?_set_iff found]
    · rw [others _ (by simpa using same), locked.session other]
      simp [Pool.getElem?_set_iff found, same]
  · rw [acceptor, others _ (by simp), locked.acceptor]
  · rw [owner, others _ (by simp), locked.owner]

theorem serve {id : Nat} {thread : ServeThread} (locked : server.Locked)
    (found : server.threads[id]? = some thread) (moves : ServeMove server id thread after) :
    after.Locked := by
  have own : server.mutex = some (.session id) ↔ thread.point.holds = true := by
    rw [locked.session id]
    simp [found]
  have idle {point : ServePoint} (before : thread.point.holds = false)
      (still : point.holds = false) :
      server.mutex = some (.session id) ↔ point.holds = true := by
    rw [own, before, still]
  have frees (holds : thread.point.holds = true) (party : ServerParty)
      (other : party ≠ .session id) :
      (none : Option ServerParty) = some party ↔ server.mutex = some party := by
    rw [own.mpr holds]
    simp [other.symm]
  cases moves with
  | walked walks =>
      exact locked.withThread found rfl (idle walks.unlocked.1 walks.unlocked.2)
        (fun _ _ => Iff.rfl) rfl rfl
  | entered here =>
      exact locked.withThread found rfl (idle (by rw [here]; rfl) rfl) (fun _ _ => Iff.rfl) rfl rfl
  | locked free here =>
      refine locked.withThread found rfl ?_ ?_ rfl rfl
      · rcases here with ⟨_, rfl⟩ | ⟨_, rfl⟩ <;> exact iff_of_true rfl rfl
      · intro party other
        simp [free, other.symm]
  | inserted here =>
      exact locked.withThread found rfl (by simp [ServePoint.holds])
        (frees (by rw [here]; rfl)) rfl rfl
  | erased here =>
      exact locked.withThread found rfl (by simp [ServePoint.holds])
        (frees (by rw [here]; rfl)) rfl rfl
  | shut here =>
      obtain ⟨sockets, same, _⟩ := server.shutdownSocket_frame thread.socket
      rw [same]
      exact locked.withThread found rfl (idle (by rw [here]; rfl) rfl) (fun _ _ => Iff.rfl) rfl rfl
  | closed here | left here =>
      exact locked.withThread found rfl (idle (by rw [here]; rfl) rfl) (fun _ _ => Iff.rfl) rfl rfl

/-- The mutex passes to or from the accept thread or the owner. -/
theorem passes (locked : server.Locked)
    (threads : ∀ id : Nat,
      (∃ thread : ServeThread, after.threads[id]? = some thread ∧ thread.point.holds = true) ↔
        ∃ thread : ServeThread, server.threads[id]? = some thread ∧ thread.point.holds = true)
    (sessions : ∀ id, after.mutex = some (.session id) ↔ server.mutex = some (.session id))
    (acceptor : after.mutex = some .acceptor ↔ after.acceptor.holds = true)
    (owner : after.mutex = some .owner ↔ after.owner.holds = true) : after.Locked :=
  ⟨fun id => (sessions id).trans ((locked.session id).trans (threads id).symm), acceptor, owner⟩

theorem accept (locked : server.Locked) (moves : AcceptMove server after) : after.Locked := by
  have owns (holds : server.acceptor.holds = true) : server.mutex = some .acceptor :=
    locked.acceptor.mpr holds
  have away (holds : server.acceptor.holds = true) : server.owner.holds = false := by
    have other := locked.owner
    rw [owns holds] at other
    simpa using other
  cases moves with
  | walked unlocked =>
      exact locked.congr rfl rfl (by rw [unlocked.1, unlocked.2]) rfl
  | left here => exact locked.congr rfl rfl (by rw [here]; rfl) rfl
  | took here fresh => exact locked.congr rfl rfl (by rw [here]; rfl) rfl
  | locked free here =>
      have owner := locked.owner
      rw [free] at owner
      refine locked.passes (fun _ => Iff.rfl) (by simp [free]) ?_ (by simpa using owner)
      rcases here with ⟨_, rfl⟩ | ⟨socket, _, rfl⟩ <;> exact iff_of_true rfl rfl
  | collected here =>
      have holds : server.acceptor.holds = true := by rw [here]; rfl
      exact locked.passes (fun _ => Iff.rfl) (by simp [owns holds]) (by simp [AcceptPoint.holds])
        (by simp [away holds])
  | refused here full =>
      have holds : server.acceptor.holds = true := by rw [here]; rfl
      exact locked.passes (fun _ => Iff.rfl) (by simp [owns holds]) (by simp [AcceptPoint.holds])
        (by simp [CoordinatorServer.withSocket, away holds])
  | @admitted socket here room =>
      have holds : server.acceptor.holds = true := by rw [here]; rfl
      refine locked.passes (fun id => ?_) (by simp [owns holds]) (by simp [AcceptPoint.holds])
        (by simp [away holds])
      rw [List.getElem?_append]
      split
      · rfl
      · next behind =>
          rw [List.getElem?_eq_none (Nat.not_lt.mp behind)]
          rw [List.getElem?_singleton]
          split <;> simp [ServePoint.holds]

theorem control (locked : server.Locked) (moves : OwnerMove server after) : after.Locked := by
  have owns (holds : server.owner.holds = true) : server.mutex = some .owner :=
    locked.owner.mpr holds
  have away (holds : server.owner.holds = true) : server.acceptor.holds = false := by
    have other := locked.acceptor
    rw [owns holds] at other
    simpa using other
  have still (free : server.mutex = none) : server.acceptor.holds = false := by
    have other := locked.acceptor
    rw [free] at other
    simpa using other
  cases moves with
  | requested here | signalled here | joined here _ | alone here =>
      exact locked.congr rfl rfl rfl (by rw [here]; rfl)
  | closed here =>
      obtain ⟨sockets, same, _⟩ := server.closeListener_frame
      rw [same]
      exact locked.congr rfl rfl rfl (by rw [here]; rfl)
  | lockedSockets free here =>
      exact locked.passes (fun _ => Iff.rfl) (by simp [free]) (by simp [still free])
        (iff_of_true rfl rfl)
  | lockedSessions free here =>
      exact locked.passes (fun _ => Iff.rfl) (by simp [free]) (by simp [still free])
        (iff_of_true rfl rfl)
  | @shut joins socket rest here =>
      obtain ⟨sockets, same, _⟩ := server.shutdownSocket_frame socket
      rw [same]
      exact locked.congr rfl rfl rfl (by rw [here]; rfl)
  | @released joins here =>
      have holds : server.owner.holds = true := by rw [here]; rfl
      refine locked.passes (fun _ => Iff.rfl) (by simp [owns holds]) (by simp [away holds]) ?_
      cases joins <;> simp [ControlPoint.holds]
  | detached here =>
      have holds : server.owner.holds = true := by rw [here]; rfl
      exact locked.passes (fun _ => Iff.rfl) (by simp [owns holds]) (by simp [away holds])
        (by simp [ControlPoint.holds])
  | joinedAcceptor here past =>
      refine locked.congr rfl rfl ?_ (by rw [here]; rfl)
      rcases past with absent | ended
      · rw [absent]
      · rw [ended]
        rfl

theorem move (locked : server.Locked) {event : ServerEvent} (moves : Move server event after) :
    after.Locked := by
  cases moves with
  | called outside moves =>
      cases moves with
      | returned => exact locked
      | refused | terminated => exact locked.congr rfl rfl rfl rfl
      | started _ _ absent => exact locked.congr rfl rfl (by rw [absent]; rfl) rfl
      | stopping | joining => exact locked.congr rfl rfl rfl (by rw [outside]; rfl)
  | owner moves => exact locked.control moves
  | acceptor moves => exact locked.accept moves
  | session found moves => exact locked.serve found moves

end Locked

section Sockets

def threadSockets (server : CoordinatorServer) : List SocketHandle :=
  Pool.chosen (fun thread => thread.point.owns) ServeThread.socket server.threads

/-- The sockets that a session thread, the accept thread or `join` still has to close. -/
def owned (server : CoordinatorServer) : List SocketHandle :=
  server.threadSockets ++ server.acceptor.pending ++ server.listener.toList

/-- The sockets of the threads that have entered theirs into the table. -/
def registry (server : CoordinatorServer) : List SocketHandle :=
  Pool.chosen (fun thread => thread.point.registered) ServeThread.socket server.threads

theorem owned_eq : server.owned =
    Pool.chosen (fun thread => thread.point.owns) ServeThread.socket server.threads ++
      server.acceptor.pending ++ server.listener.toList := rfl

theorem registry_eq : server.registry =
    Pool.chosen (fun thread => thread.point.registered) ServeThread.socket server.threads := rfl

/-- An open socket has exactly one thread to close it, or it is lost; the table holds open ones. -/
structure Owned (server : CoordinatorServer) : Prop where
  once : (server.owned ++ server.lost).Nodup
  exactly : ∀ socket, server.sockets socket ≠ .closed ↔ socket ∈ server.owned ++ server.lost
  registry : server.sessionSockets.Perm server.registry
  rest : ∀ joins rest, server.owner = .shutting joins rest →
    ∀ socket ∈ rest, socket ∈ server.sessionSockets

theorem registry_subset {socket : SocketHandle} (member : socket ∈ server.registry) :
    socket ∈ server.owned := by
  obtain ⟨thread, present, registered, same⟩ := Pool.mem_chosen.mp member
  refine List.mem_append_left _ (List.mem_append_left _ (Pool.mem_chosen.mpr
    ⟨thread, present, ?_, same⟩))
  cases point : thread.point <;> rw [point] at registered <;> first | rfl | cases registered

namespace Owned

/-- A socket that someone has to close is open. -/
theorem owned_open (owned : server.Owned) {socket : SocketHandle}
    (member : socket ∈ server.owned) : server.sockets socket ≠ .closed :=
  (owned.exactly socket).mpr (List.mem_append_left _ member)

/-- The table names open sockets only. -/
theorem registered_open (owned : server.Owned) {socket : SocketHandle}
    (member : socket ∈ server.sessionSockets) : server.sockets socket ≠ .closed :=
  owned.owned_open (registry_subset (owned.registry.mem_iff.mp member))

/-- No socket is opened or closed. -/
theorem congr (owned : server.Owned)
    (same : (after.owned ++ after.lost).Perm (server.owned ++ server.lost))
    (closed : ∀ socket, after.sockets socket = .closed ↔ server.sockets socket = .closed)
    (registry : after.sessionSockets.Perm after.registry)
    (rest : ∀ joins rest, after.owner = .shutting joins rest →
      ∀ socket ∈ rest, socket ∈ after.sessionSockets) : after.Owned := by
  refine ⟨same.nodup_iff.mpr owned.once, ?_, registry, rest⟩
  intro socket
  rw [same.mem_iff, ← owned.exactly socket]
  exact not_congr (closed socket)

/-- A fresh socket comes to whoever opened it. -/
theorem takes {socket : SocketHandle} {state : SocketState} (owned : server.Owned)
    (fresh : server.sockets socket = .closed) (opens : state ≠ .closed)
    (given : (after.owned ++ after.lost).Perm (socket :: (server.owned ++ server.lost)))
    (opened : after.sockets = (server.withSocket socket state).sockets)
    (registry : after.sessionSockets.Perm after.registry)
    (rest : ∀ joins rest, after.owner = .shutting joins rest →
      ∀ socket ∈ rest, socket ∈ after.sessionSockets) : after.Owned := by
  have unowned : socket ∉ server.owned ++ server.lost := by
    rw [← owned.exactly socket]
    exact fun opened => opened fresh
  refine ⟨given.nodup_iff.mpr (List.nodup_cons.mpr ⟨unowned, owned.once⟩), ?_, registry, rest⟩
  intro other
  rw [opened, withSocket_sockets, given.mem_iff, List.mem_cons]
  split
  · next same => exact iff_of_true opens (.inl same)
  · next different =>
      rw [owned.exactly other]
      exact ⟨.inr, fun member => member.resolve_left different⟩

/-- Whoever has the socket closes it. -/
theorem close {socket : SocketHandle} (owned : server.Owned)
    (given : (socket :: (after.owned ++ after.lost)).Perm (server.owned ++ server.lost))
    (closed : after.sockets = (server.withSocket socket .closed).sockets)
    (registry : after.sessionSockets.Perm after.registry)
    (rest : ∀ joins rest, after.owner = .shutting joins rest →
      ∀ socket ∈ rest, socket ∈ after.sessionSockets) : after.Owned := by
  obtain ⟨gone, once⟩ := List.nodup_cons.mp (given.nodup_iff.mpr owned.once)
  refine ⟨once, ?_, registry, rest⟩
  intro other
  rw [closed, withSocket_sockets]
  split
  · next same => simp [same, gone]
  · next different =>
      rw [owned.exactly other, ← given.mem_iff]
      simp [different]

theorem serve {id : Nat} {thread : ServeThread} (owned : server.Owned) (locked : server.Locked)
    (found : server.threads[id]? = some thread) (moves : ServeMove server id thread after) :
    after.Owned := by
  have kept {next : ServeThread} (owns : next.point.owns = thread.point.owns)
      (socket : next.socket = thread.socket) :
      (Pool.chosen (fun thread => thread.point.owns) ServeThread.socket
          (server.threads.set id next) ++ server.acceptor.pending ++ server.listener.toList ++
        server.lost).Perm (server.owned ++ server.lost) := by
    rw [owned_eq, Pool.chosen_set_same found owns fun _ => socket]
  have still {next : ServeThread} (registered : next.point.registered = thread.point.registered)
      (socket : next.socket = thread.socket) :
      server.sessionSockets.Perm (Pool.chosen (fun thread => thread.point.registered)
        ServeThread.socket (server.threads.set id next)) := by
    rw [Pool.chosen_set_same found registered fun _ => socket]
    exact owned.registry
  have away (holds : thread.point.holds = true) (joins : Bool) (rest : List SocketHandle) :
      server.owner ≠ .shutting joins rest := by
    intro shutting
    have mine := (locked.session id).mpr ⟨thread, found, holds⟩
    have other := locked.owner.mpr (by rw [shutting]; rfl)
    rw [mine] at other
    cases other
  cases moves with
  | walked walks =>
      exact owned.congr (kept walks.owns walks.socket) (fun _ => Iff.rfl)
        (still walks.registered walks.socket) owned.rest
  | entered here =>
      exact owned.congr (kept (by rw [here]; rfl) rfl) (fun _ => Iff.rfl)
        (still (by rw [here]; rfl) rfl) owned.rest
  | locked free here =>
      rcases here with ⟨here, rfl⟩ | ⟨here, rfl⟩ <;>
        exact owned.congr (kept (by rw [here]; rfl) rfl) (fun _ => Iff.rfl)
          (still (by rw [here]; rfl) rfl) owned.rest
  | inserted here =>
      refine owned.congr (kept (by rw [here]; rfl) rfl) (fun _ => Iff.rfl) ?_ ?_
      · have enters := Pool.chosen_set_enter (fun thread => thread.point.registered)
          ServeThread.socket { thread with point := .checking } found (by rw [here]; rfl) rfl
        exact (List.perm_append_singleton ..).trans ((owned.registry.cons _).trans enters.symm)
      · intro joins rest shutting socket member
        exact List.mem_append_left _ (owned.rest joins rest shutting socket member)
  | erased here =>
      refine owned.congr (kept (by rw [here]; rfl) rfl) (fun _ => Iff.rfl) ?_ ?_
      · have leaves := Pool.chosen_set_leave (fun thread => thread.point.registered)
          ServeThread.socket { thread with point := .shutting } found (by rw [here]; rfl) rfl
        have erased := (owned.registry.trans leaves.symm).erase thread.socket
        rwa [List.erase_cons_head] at erased
      · intro joins rest shutting
        exact absurd shutting (away (by rw [here]; rfl) joins rest)
  | shut here =>
      obtain ⟨sockets, same, closed, _⟩ := server.shutdownSocket_frame thread.socket
      rw [same]
      exact owned.congr (kept (by rw [here]; rfl) rfl) closed (still (by rw [here]; rfl) rfl)
        owned.rest
  | closed here =>
      have leaves := Pool.chosen_set_leave (fun thread => thread.point.owns) ServeThread.socket
        { thread with point := .leaving } found (by rw [here]; rfl) rfl
      exact owned.close (((leaves.append_right _).append_right _).append_right _) rfl
        (still (by rw [here]; rfl) rfl) owned.rest
  | left here =>
      exact owned.congr (kept (by rw [here]; rfl) rfl) (fun _ => Iff.rfl)
        (still (by rw [here]; rfl) rfl) owned.rest

theorem accept (owned : server.Owned) (moves : AcceptMove server after) : after.Owned := by
  have same {acceptor : AcceptPoint} (pending : acceptor.pending = server.acceptor.pending) :
      (server.threadSockets ++ acceptor.pending ++ server.listener.toList ++ server.lost).Perm
        (server.owned ++ server.lost) := by
    rw [pending]
    exact .refl _
  cases moves with
  | walked unlocked pending =>
      exact owned.congr (same (by rw [pending.1, pending.2])) (fun _ => Iff.rfl) owned.registry
        owned.rest
  | left here | collected here =>
      exact owned.congr (same (by rw [here]; rfl)) (fun _ => Iff.rfl) owned.registry owned.rest
  | locked free here =>
      rcases here with ⟨here, rfl⟩ | ⟨socket, here, rfl⟩ <;>
        exact owned.congr (same (by rw [here]; rfl)) (fun _ => Iff.rfl) owned.registry owned.rest
  | @took socket here fresh =>
      refine owned.takes fresh SocketState.noConfusion ?_ rfl owned.registry owned.rest
      rw [owned_eq, owned_eq, here]
      simp [AcceptPoint.pending, CoordinatorServer.withSocket]
  | @refused socket here full =>
      refine owned.close ?_ rfl owned.registry owned.rest
      rw [owned_eq, owned_eq, here]
      simpa [AcceptPoint.pending, CoordinatorServer.withSocket] using List.perm_middle.symm
  | @admitted socket here room =>
      refine owned.congr (.of_eq ?_) (fun _ => Iff.rfl) ?_ owned.rest
      · rw [owned_eq, owned_eq, here, Pool.chosen_concat]
        simp [AcceptPoint.pending, ServePoint.owns]
      · rw [registry_eq, Pool.chosen_concat]
        exact owned.registry.trans (.of_eq (List.append_nil _).symm)

theorem control (owned : server.Owned) (phased : server.Phased)
    (moves : OwnerMove server after) : after.Owned := by
  have elsewhere {owner : ControlPoint} (away : owner.holds = false) :
      ∀ joins rest, owner = .shutting joins rest → ∀ socket ∈ rest,
        socket ∈ server.sessionSockets := by
    intro joins rest shutting
    rw [shutting] at away
    cases away
  cases moves with
  | requested here | signalled here | lockedSessions free here | detached here | joined here _
  | alone here =>
      refine owned.congr (.refl _) (fun _ => Iff.rfl) owned.registry ?_
      intro joins rest shutting
      cases shutting
  | closed here =>
      have heard := phased.heard (by rw [here]; rfl)
      obtain ⟨socket, listener⟩ := Option.isSome_iff_exists.mp heard
      rw [closeListener, listener]
      refine owned.close ?_ rfl owned.registry ?_
      · have middle := @List.perm_middle _ socket
          (server.threadSockets ++ server.acceptor.pending) server.lost
        rw [owned_eq, owned_eq, listener]
        simpa [CoordinatorServer.withSocket, threadSockets] using middle.symm
      · intro joins rest shutting
        cases shutting
  | @released joins here =>
      exact owned.congr (.refl _) (fun _ => Iff.rfl) owned.registry
        (elsewhere (by cases joins <;> rfl))
  | joinedAcceptor here past =>
      refine owned.congr (.of_eq ?_) (fun _ => Iff.rfl) owned.registry (elsewhere rfl)
      rw [owned_eq, owned_eq]
      rcases past with absent | ended
      · rw [absent]
      · rw [ended]
        rfl
  | @lockedSockets joins free here =>
      refine owned.congr (.refl _) (fun _ => Iff.rfl) owned.registry ?_
      intro again rest shutting socket member
      cases shutting
      exact member
  | @shut joins socket rest here =>
      obtain ⟨sockets, same, closed, _⟩ := server.shutdownSocket_frame socket
      rw [same]
      refine owned.congr (.refl _) closed owned.registry ?_
      intro again others shutting other member
      cases shutting
      exact owned.rest joins _ here other (List.mem_cons_of_mem _ member)

/-- What a `start` overwrites is lost. -/
theorem startOver_perm (server : CoordinatorServer) :
    (server.startOver.owned ++ server.startOver.lost).Perm (server.owned ++ server.lost) := by
  rw [owned_eq, owned_eq]
  simpa [startOver] using (List.perm_append_comm.append_left _).append_left _

theorem call {event : ServerEvent} (owned : server.Owned) (moves : CallMove server event after) :
    after.Owned := by
  have opens {acceptor : AcceptPoint} (pending : acceptor.pending = server.acceptor.pending)
      (socket : SocketHandle) : (server.threadSockets ++ acceptor.pending ++ [socket] ++
        server.startOver.lost).Perm (socket :: (server.owned ++ server.lost)) := by
    have overwritten := startOver_perm server
    have middle := @List.perm_middle _ socket (server.threadSockets ++ acceptor.pending)
      server.startOver.lost
    rw [List.append_assoc, pending]
    rw [pending] at middle
    refine middle.trans (.cons socket (.trans ?_ overwritten))
    simp [owned_eq, startOver, threadSockets]
  cases moves with
  | returned => exact owned
  | refused =>
      exact owned.congr (startOver_perm server) (fun _ => Iff.rfl) owned.registry owned.rest
  | @started _ socket _ fresh absent =>
      exact owned.takes fresh SocketState.noConfusion (opens (by rw [absent]; rfl) socket) rfl
        owned.registry owned.rest
  | @terminated _ socket _ fresh =>
      exact owned.takes fresh SocketState.noConfusion (opens rfl socket) rfl owned.registry
        owned.rest
  | stopping | joining =>
      refine owned.congr (.refl _) (fun _ => Iff.rfl) owned.registry ?_
      intro joins rest shutting
      cases shutting

theorem move (owned : server.Owned) (phased : server.Phased) (locked : server.Locked)
    {event : ServerEvent} (moves : Move server event after) : after.Owned := by
  cases moves with
  | called outside moves => exact owned.call moves
  | owner moves => exact owned.control phased moves
  | acceptor moves => exact owned.accept moves
  | session found moves => exact owned.serve locked found moves

end Owned

end Sockets

end PortFabric.CoordinatorServer
