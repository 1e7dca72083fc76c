import PortFabric.Server.ThreadInvariants

/-!
# Stopping the server threads

Who joins which session thread, which stop handle a thread waits for, and whose
socket is shut: what lets a `join` come to its end. With the invariants before it,
this is what holds of the server in every state that it reaches.
-/

set_option autoImplicit false

namespace PortFabric.CoordinatorServer

variable {server after : CoordinatorServer}

section Joining

/-- The threads that count as active sessions, by their sockets. -/
def counted (server : CoordinatorServer) : List SocketHandle :=
  Pool.chosen (fun thread => thread.point.counted) ServeThread.socket server.threads

/-- Someone will join every session thread that has not ended, and the sessions are bounded. -/
structure Tracked (server : CoordinatorServer) : Prop where
  joined : ∀ id thread, server.threads[id]? = some thread → thread.point = .finished ∨
    id ∈ server.sessions ∨ id ∈ server.acceptor.joins ∨ id ∈ server.owner.joins
  pruned : ∀ id ∈ server.acceptor.joins, server.threadDone id = true
  known : ∀ id, id ∈ server.sessions ∨ id ∈ server.acceptor.joins ∨ id ∈ server.owner.joins →
    id < server.threads.length
  bounded : server.sessions.length + server.owner.joins.length ≤ server.maxSessions
  active : server.activeSessions = server.counted.length
  emptied : server.owner.detached = true → server.sessions = []
  cleared : server.acceptor = .absent → server.owner.alone = true ∨ server.sessions = []

namespace Tracked

theorem threadDone_eq {id : Nat} {thread : ServeThread}
    (found : server.threads[id]? = some thread) : server.threadDone id = thread.point.isDone := by
  rw [threadDone, found]
  rfl

/-- A session thread moves, and no thread is handed over to be joined. -/
theorem withThread {id : Nat} {thread next : ServeThread} (tracked : server.Tracked)
    (found : server.threads[id]? = some thread)
    (threads : after.threads = server.threads.set id next)
    (sessions : after.sessions = server.sessions) (acceptor : after.acceptor = server.acceptor)
    (owner : after.owner = server.owner) (maxSessions : after.maxSessions = server.maxSessions)
    (ended : thread.point = .finished → next.point = .finished)
    (done : thread.point.isDone = true → next.point.isDone = true)
    (active : after.activeSessions = after.counted.length) : after.Tracked := by
  refine ⟨?_, ?_, ?_, ?_, active, ?_, ?_⟩
  · intro other member present
    rw [threads, Pool.getElem?_set_iff found] at present
    rw [sessions, acceptor, owner]
    split at present
    · next same =>
        cases present
        rw [same]
        exact (tracked.joined id thread found).imp_left ended
    · exact tracked.joined other member present
  · intro other member
    rw [acceptor] at member
    have before := tracked.pruned other member
    rw [threadDone, threads, Pool.getElem?_set_iff found]
    split
    · next same =>
        rw [same, threadDone_eq found] at before
        exact done before
    · exact before
  · intro other member
    rw [sessions, acceptor, owner] at member
    rw [threads, List.length_set]
    exact tracked.known other member
  · rw [sessions, owner, maxSessions]
    exact tracked.bounded
  · rw [sessions, owner]
    exact tracked.emptied
  · rw [acceptor, owner, sessions]
    exact tracked.cleared

theorem serve {id : Nat} {thread : ServeThread} (tracked : server.Tracked)
    (found : server.threads[id]? = some thread) (moves : ServeMove server id thread after) :
    after.Tracked := by
  have same {next : ServeThread} (counted : next.point.counted = thread.point.counted)
      (socket : next.socket = thread.socket) : server.activeSessions =
        (Pool.chosen (fun thread => thread.point.counted) ServeThread.socket
          (server.threads.set id next)).length := by
    rw [Pool.chosen_set_same found counted fun _ => socket]
    exact tracked.active
  have busy {point : ServePoint} (here : thread.point = point) (away : point ≠ .finished)
      {next : ServePoint} : thread.point = .finished → next = .finished :=
    fun ended => absurd (here.symm.trans ended) away
  have undone {point : ServePoint} (here : thread.point = point) (not : point.isDone = false)
      {next : ServePoint} : thread.point.isDone = true → next.isDone = true := by
    intro done
    rw [here, not] at done
    cases done
  cases moves with
  | walked walks =>
      exact tracked.withThread found rfl rfl rfl rfl rfl (fun ended => absurd ended walks.going)
        walks.done (same walks.counted walks.socket)
  | entered here =>
      refine tracked.withThread found rfl rfl rfl rfl rfl (busy here ServePoint.noConfusion)
        (undone here rfl) ?_
      have enters := Pool.chosen_set_enter (fun thread => thread.point.counted) ServeThread.socket
        { thread with point := .registering } found (by rw [here]; rfl) rfl
      exact (congrArg (· + 1) tracked.active).trans enters.length_eq.symm
  | locked free here =>
      rcases here with ⟨here, rfl⟩ | ⟨here, rfl⟩ <;>
        exact tracked.withThread found rfl rfl rfl rfl rfl (busy here ServePoint.noConfusion)
          (undone here rfl) (same (by rw [here]; rfl) rfl)
  | inserted here | erased here | closed here =>
      exact tracked.withThread found rfl rfl rfl rfl rfl (busy here ServePoint.noConfusion)
        (undone here rfl) (same (by rw [here]; rfl) rfl)
  | shut here =>
      obtain ⟨sockets, frame, _⟩ := server.shutdownSocket_frame thread.socket
      rw [frame]
      exact tracked.withThread found rfl rfl rfl rfl rfl (busy here ServePoint.noConfusion)
        (undone here rfl) (same (by rw [here]; rfl) rfl)
  | left here =>
      refine tracked.withThread found rfl rfl rfl rfl rfl (busy here ServePoint.noConfusion)
        (undone here rfl) ?_
      have leaves := Pool.chosen_set_leave (fun thread => thread.point.counted) ServeThread.socket
        { thread with point := .marking } found (by rw [here]; rfl) rfl
      have before := tracked.active.trans leaves.length_eq.symm
      exact (congrArg (· - 1) before).trans (Nat.add_sub_cancel ..)

theorem alone_of_detached {owner : ControlPoint} (past : owner.detached = true) :
    owner.alone = true := by
  cases owner <;> first | rfl | cases past

theorem threadFinished_eq_true {id : Nat} : server.threadFinished id = true ↔
    ∃ thread, server.threads[id]? = some thread ∧ thread.point = .finished := by
  simp [threadFinished, Option.any_eq_true]

/-- The threads stay where they are, and those that are no longer to be joined have ended. -/
theorem handover (tracked : server.Tracked) (threads : after.threads = server.threads)
    (active : after.activeSessions = server.activeSessions)
    (joined : ∀ id, id ∈ server.sessions ∨ id ∈ server.acceptor.joins ∨ id ∈ server.owner.joins →
      server.threadFinished id = true ∨
        id ∈ after.sessions ∨ id ∈ after.acceptor.joins ∨ id ∈ after.owner.joins)
    (pruned : ∀ id ∈ after.acceptor.joins, server.threadDone id = true)
    (known : ∀ id, id ∈ after.sessions ∨ id ∈ after.acceptor.joins ∨ id ∈ after.owner.joins →
      id ∈ server.sessions ∨ id ∈ server.acceptor.joins ∨ id ∈ server.owner.joins)
    (bounded : after.sessions.length + after.owner.joins.length ≤ after.maxSessions)
    (emptied : after.owner.detached = true → after.sessions = [])
    (cleared : after.acceptor = .absent → after.owner.alone = true ∨ after.sessions = []) :
    after.Tracked := by
  refine ⟨?_, ?_, ?_, bounded, ?_, emptied, cleared⟩
  · intro id thread found
    rw [threads] at found
    rcases tracked.joined id thread found with ended | listed
    · exact .inl ended
    · refine (joined id listed).imp_left fun finished => ?_
      obtain ⟨other, present, ended⟩ := threadFinished_eq_true.mp finished
      cases found.symm.trans present
      exact ended
  · intro id member
    rw [threadDone, threads]
    exact pruned id member
  · intro id member
    rw [threads]
    exact tracked.known id (known id member)
  · rw [active, counted, threads]
    exact tracked.active

theorem accept (tracked : server.Tracked) (phased : server.Phased)
    (moves : AcceptMove server after) : after.Tracked := by
  cases moves with
  | walked unlocked pending joined fewer active stays =>
      refine tracked.handover rfl rfl ?_ (fun id member => tracked.pruned id (fewer id member)) ?_
        tracked.bounded tracked.emptied fun absent => absurd absent stays
      · intro id listed
        rcases listed with held | joins | joins
        · exact .inr (.inl held)
        · rcases joined id joins with still | ended
          · exact .inr (.inr (.inl still))
          · exact .inl ended
        · exact .inr (.inr (.inr joins))
      · intro id listed
        exact listed.imp_right fun listed => listed.imp_left (fewer id)
  | left here | took here fresh | refused here full =>
      have none : server.acceptor.joins = [] := by rw [here]; rfl
      refine tracked.handover rfl rfl ?_ (fun id member => by cases member) ?_ tracked.bounded
        tracked.emptied AcceptPoint.noConfusion
      · intro id listed
        rw [none] at listed
        exact .inr listed
      · intro id listed
        rw [none]
        exact listed
  | locked free here =>
      have none {point : AcceptPoint} (here : server.acceptor = .pruning ∧ point = .collecting ∨
          ∃ socket, server.acceptor = .admitting socket ∧ point = .deciding socket) :
          server.acceptor.joins = [] ∧ point.joins = [] ∧ point ≠ .absent := by
        rcases here with ⟨here, rfl⟩ | ⟨socket, here, rfl⟩ <;> rw [here] <;>
          exact ⟨rfl, rfl, AcceptPoint.noConfusion⟩
      obtain ⟨before, later, stays⟩ := none here
      refine tracked.handover rfl rfl ?_ ?_ ?_ tracked.bounded tracked.emptied
        fun absent => absurd absent stays
      · intro id listed
        rw [before] at listed
        exact .inr (by rw [later]; exact listed)
      · intro id member
        rw [later] at member
        cases member
      · intro id listed
        rw [later] at listed
        rw [before]
        exact listed
  | collected here =>
      have none : server.acceptor.joins = [] := by rw [here]; rfl
      refine tracked.handover rfl rfl ?_ (fun id member => (List.mem_filter.mp member).2) ?_ ?_
        (fun past => by rw [tracked.emptied past]; rfl) AcceptPoint.noConfusion
      · intro id listed
        rw [none] at listed
        rcases listed with held | joins | joins
        · cases done : server.threadDone id with
          | true => exact .inr (.inr (.inl (List.mem_filter.mpr ⟨held, done⟩)))
          | false => exact .inr (.inl (List.mem_filter.mpr ⟨held, by simp [done]⟩))
        · cases joins
        · exact .inr (.inr (.inr joins))
      · intro id listed
        rcases listed with held | joins | joins
        · exact .inl (List.mem_filter.mp held).1
        · exact .inl (List.mem_filter.mp joins).1
        · exact .inr (.inr joins)
      · have bounded := tracked.bounded
        have fewer := List.length_filter_le (fun id => !server.threadDone id) server.sessions
        dsimp only
        omega
  | @admitted socket here room =>
      have none : server.acceptor.joins = [] := by rw [here]; rfl
      have apart : server.owner.joins = [] := by
        cases owner : server.owner with
        | joining rest =>
            have absent := phased.alone (by rw [owner]; rfl)
            rw [here] at absent
            cases absent
        | _ => rfl
      refine ⟨?_, fun id member => (by cases member), ?_, ?_, ?_, ?_, AcceptPoint.noConfusion⟩
      · intro id thread found
        rw [List.getElem?_append] at found
        split at found
        · rcases tracked.joined id thread found with ended | held | joins | joins
          · exact .inl ended
          · exact .inr (.inl (List.mem_append_left _ held))
          · rw [none] at joins
            cases joins
          · exact .inr (.inr (.inr joins))
        · next behind =>
            rw [List.getElem?_singleton] at found
            split at found
            · next first =>
                have same : id = server.threads.length := by omega
                exact .inr (.inl (List.mem_append_right _ (List.mem_singleton.mpr same)))
            · cases found
      · intro id listed
        rw [List.length_append]
        have before (listed : id ∈ server.sessions ∨ id ∈ server.acceptor.joins ∨
            id ∈ server.owner.joins) : id < server.threads.length + 1 :=
          Nat.lt_succ_of_lt (tracked.known id listed)
        rcases listed with held | joins | joins
        · rcases List.mem_append.mp held with old | new
          · exact before (.inl old)
          · rw [List.mem_singleton.mp new]
            exact Nat.lt_succ_self _
        · cases joins
        · exact before (.inr (.inr joins))
      · rw [apart, List.length_append]
        exact room
      · rw [counted, Pool.chosen_concat]
        exact tracked.active.trans (congrArg List.length (List.append_nil _).symm)
      · intro past
        have absent := phased.alone (alone_of_detached past)
        rw [here] at absent
        cases absent

/-- Nothing is handed over. -/
theorem congr (tracked : server.Tracked) (threads : after.threads = server.threads)
    (active : after.activeSessions = server.activeSessions)
    (sessions : after.sessions = server.sessions)
    (acceptor : after.acceptor.joins = server.acceptor.joins)
    (owner : after.owner.joins = server.owner.joins)
    (detached : after.owner.detached = true → server.owner.detached = true)
    (maxSessions : after.maxSessions = server.maxSessions)
    (cleared : after.acceptor = .absent → after.owner.alone = true ∨ after.sessions = []) :
    after.Tracked := by
  refine tracked.handover threads active ?_ ?_ ?_ ?_ ?_ cleared
  · intro id listed
    rw [sessions, acceptor, owner]
    exact .inr listed
  · rw [acceptor]
    exact tracked.pruned
  · intro id listed
    rw [sessions, acceptor, owner] at listed
    exact listed
  · rw [sessions, owner, maxSessions]
    exact tracked.bounded
  · rw [sessions]
    exact fun past => tracked.emptied (detached past)

/-- Before the accept thread is joined, its absence means that there is no session. -/
theorem empty (tracked : server.Tracked) (apart : server.owner.alone = false)
    (absent : server.acceptor = .absent) : server.sessions = [] := by
  rcases tracked.cleared absent with alone | empty
  · rw [apart] at alone
    cases alone
  · exact empty

theorem control (tracked : server.Tracked) (moves : OwnerMove server after) : after.Tracked := by
  have empty := tracked.empty
  cases moves with
  | requested here | signalled here | lockedSockets free here =>
      rw [here] at empty
      exact tracked.congr rfl rfl rfl rfl (by rw [here]; rfl) Bool.noConfusion rfl
        fun absent => .inr (empty rfl absent)
  | closed here =>
      obtain ⟨sockets, same, _⟩ := server.closeListener_frame
      rw [same]
      exact tracked.congr rfl rfl rfl rfl (by rw [here]; rfl) Bool.noConfusion rfl
        fun _ => .inr (tracked.emptied (by rw [here]; rfl))
  | lockedSessions free here =>
      exact tracked.congr rfl rfl rfl rfl (by rw [here]; rfl) Bool.noConfusion rfl
        fun _ => .inl rfl
  | alone here =>
      exact tracked.congr rfl rfl rfl rfl (by rw [here]; rfl) (fun _ => by rw [here]; rfl) rfl
        fun _ => .inl rfl
  | @shut joins socket rest here =>
      obtain ⟨sockets, same, _⟩ := server.shutdownSocket_frame socket
      rw [here] at empty
      rw [same]
      exact tracked.congr rfl rfl rfl rfl (by rw [here]; rfl) Bool.noConfusion rfl
        fun absent => .inr (empty rfl absent)
  | @released joins here =>
      rw [here] at empty
      cases joins <;>
        exact tracked.congr rfl rfl rfl rfl (by rw [here]; rfl) Bool.noConfusion rfl
          fun absent => .inr (empty rfl absent)
  | joinedAcceptor here past =>
      refine tracked.congr rfl rfl rfl ?_ (by rw [here]; rfl) Bool.noConfusion rfl fun _ => .inl rfl
      rcases past with absent | ended
      · rw [absent]
      · rw [ended]
        rfl
  | detached here =>
      have none : server.owner.joins = [] := by rw [here]; rfl
      refine tracked.handover rfl rfl ?_ tracked.pruned ?_ ?_ (fun _ => rfl) fun _ => .inl rfl
      · intro id listed
        rw [none] at listed
        rcases listed with held | joins | joins
        · exact .inr (.inr (.inr held))
        · exact .inr (.inr (.inl joins))
        · cases joins
      · intro id listed
        rcases listed with held | joins | joins
        · cases held
        · exact .inr (.inl joins)
        · exact .inl joins
      · have bounded := tracked.bounded
        rw [none] at bounded
        exact (Nat.zero_add _).trans_le bounded
  | @joined id rest here ended =>
      have taken : server.owner.joins = id :: rest := by rw [here]; rfl
      refine tracked.handover rfl rfl ?_ tracked.pruned ?_ ?_
        (fun _ => tracked.emptied (by rw [here]; rfl)) fun _ => .inl rfl
      · intro other listed
        rw [taken] at listed
        rcases listed with held | joins | joins
        · exact .inr (.inl held)
        · exact .inr (.inr (.inl joins))
        · rcases List.mem_cons.mp joins with rfl | later
          · exact .inl ended
          · exact .inr (.inr (.inr later))
      · intro other listed
        rw [taken]
        exact listed.imp_right fun listed => listed.imp_right (List.mem_cons_of_mem id)
      · have bounded := tracked.bounded
        rw [taken, List.length_cons] at bounded
        exact Nat.le_of_succ_le bounded

theorem move (tracked : server.Tracked) (phased : server.Phased) {event : ServerEvent}
    (moves : Move server event after) : after.Tracked := by
  cases moves with
  | called outside moves =>
      have empty := tracked.empty (by rw [outside]; rfl)
      cases moves with
      | returned => exact tracked
      | refused | terminated =>
          exact tracked.congr rfl rfl rfl rfl rfl id rfl fun absent => .inr (empty absent)
      | started _ _ absent =>
          exact tracked.congr rfl rfl rfl (by rw [absent]; rfl) rfl id rfl AcceptPoint.noConfusion
      | stopping | joining =>
          exact tracked.congr rfl rfl rfl rfl (by rw [outside]; rfl) Bool.noConfusion rfl
            fun absent => .inr (empty absent)
  | owner moves => exact tracked.control moves
  | acceptor moves => exact tracked.accept phased moves
  | session found moves => exact tracked.serve found moves

/-- Where the owner is outside and no thread accepts, every session thread has ended. -/
theorem all_finished (tracked : server.Tracked) (outside : server.owner = .outside)
    (absent : server.acceptor = .absent) {thread : ServeThread}
    (member : thread ∈ server.threads) : thread.point = .finished := by
  obtain ⟨id, found⟩ := List.getElem?_of_mem member
  have joined := tracked.joined id thread found
  rw [tracked.empty (by rw [outside]; rfl) absent, absent, outside] at joined
  rcases joined with ended | member | member | member
  · exact ended
  · cases member
  · cases member
  · cases member

end Tracked

end Joining

section Heeding

/-- A thread inside `read_exact` waits for the stop handle that the next `stop` signals. -/
def Heeding (server : CoordinatorServer) : Prop :=
  server.terminated = false → server.stop.isSome = true → ∀ thread ∈ server.threads,
    thread.point.waiting = true → thread.stop = server.stop

namespace Heeding

/-- The threads that wait were there before, and so was the stop handle. -/
theorem of_before (heeding : server.Heeding) (terminated : after.terminated = server.terminated)
    (stop : after.stop = server.stop)
    (before : ∀ thread ∈ after.threads, thread.point.waiting = true →
      thread ∈ server.threads) : after.Heeding := by
  intro alive given thread member waiting
  rw [terminated] at alive
  rw [stop] at given ⊢
  exact heeding alive given thread (before thread member waiting) waiting

theorem serve {id : Nat} {thread : ServeThread} (heeding : server.Heeding)
    (found : server.threads[id]? = some thread) (moves : ServeMove server id thread after) :
    after.Heeding := by
  have others {next : ServeThread} (quiet : next.point.waiting = false) (other : ServeThread)
      (member : other ∈ server.threads.set id next) (waiting : other.point.waiting = true) :
      other ∈ server.threads := by
    rcases List.mem_or_eq_of_mem_set member with old | rfl
    · exact old
    · rw [quiet] at waiting
      cases waiting
  cases moves with
  | @walked next walks =>
      intro alive given other member waiting
      rcases List.mem_or_eq_of_mem_set member with old | rfl
      · exact heeding alive given other old waiting
      · rcases walks.heeds waiting with same | ⟨before, same⟩
        · exact same
        · rw [same]
          exact heeding alive given thread (List.mem_of_getElem? found) before
  | entered | inserted | erased | closed | left => exact heeding.of_before rfl rfl (others rfl)
  | locked free here =>
      rcases here with ⟨_, rfl⟩ | ⟨_, rfl⟩ <;> exact heeding.of_before rfl rfl (others rfl)
  | shut here =>
      obtain ⟨sockets, same, _⟩ := server.shutdownSocket_frame thread.socket
      rw [same]
      exact heeding.of_before rfl rfl (others rfl)

theorem move (heeding : server.Heeding) (tracked : server.Tracked) {event : ServerEvent}
    (moves : Move server event after) : after.Heeding := by
  cases moves with
  | called outside moves =>
      cases moves with
      | returned => exact heeding
      | stopping | joining => exact heeding.of_before rfl rfl fun _ member _ => member
      | refused => exact fun _ given => Bool.noConfusion given
      | terminated => exact Bool.noConfusion
      | started _ _ absent =>
          intro _ _ thread member waiting
          rw [tracked.all_finished outside absent member] at waiting
          cases waiting
  | owner moves =>
      cases moves with
      | closed here => exact fun _ given => Bool.noConfusion given
      | shut here =>
          obtain ⟨sockets, same, _⟩ := server.shutdownSocket_frame _
          rw [same]
          exact heeding.of_before rfl rfl fun _ member _ => member
      | _ => exact heeding.of_before rfl rfl fun _ member _ => member
  | acceptor moves =>
      cases moves with
      | admitted here room =>
          refine heeding.of_before rfl rfl fun thread member waiting => ?_
          rcases List.mem_append.mp member with old | new
          · exact old
          · rw [List.mem_singleton.mp new] at waiting
            cases waiting
      | _ => exact heeding.of_before rfl rfl fun _ member _ => member
  | session found moves => exact heeding.serve found moves

end Heeding

end Heeding

section Silence

/-- A thread inside a round has its socket shut, or the owner is still about to shut it. -/
def Silenced (server : CoordinatorServer) : Prop :=
  ∀ rest, server.owner.unshut = some rest → ∀ thread ∈ server.threads,
    thread.point.looping = true →
      server.sockets thread.socket = .shut ∨ thread.socket ∈ rest

namespace Silenced

theorem asked_of_unshut {owner : ControlPoint} {rest : List SocketHandle}
    (begun : owner.unshut = some rest) : owner.asked = true := by
  cases owner <;> first | rfl | cases begun

theorem registered_of_looping {point : ServePoint} (looping : point.looping = true) :
    point.registered = true := by
  cases point <;> first | rfl | cases looping

/-- Every thread inside a round was there before, and its socket stays shut. -/
theorem of_before (silenced : server.Silenced) (owner : after.owner = server.owner)
    (before : ∀ thread ∈ after.threads, thread.point.looping = true →
      ∃ former ∈ server.threads, former.point.looping = true ∧ former.socket = thread.socket)
    (shut : ∀ thread ∈ after.threads, thread.point.looping = true →
      server.sockets thread.socket = .shut → after.sockets thread.socket = .shut) :
    after.Silenced := by
  intro rest begun thread member looping
  rw [owner] at begun
  obtain ⟨former, present, looped, same⟩ := before thread member looping
  refine (silenced rest begun former present looped).imp ?_ ?_
  · intro was
    rw [same] at was
    exact shut thread member looping was
  · intro pending
    rwa [same] at pending

/-- Sockets are only closed that no thread inside a round has. -/
theorem shut_of_closed {socket : SocketHandle} {thread : ServeThread} (owned : after.Owned)
    (sockets : after.sockets = (server.withSocket socket .closed).sockets)
    (member : thread ∈ after.threads) (looping : thread.point.looping = true)
    (shut : server.sockets thread.socket = .shut) : after.sockets thread.socket = .shut := by
  have present : thread.socket ∈ after.owned :=
    registry_subset (Pool.mem_chosen.mpr ⟨thread, member, registered_of_looping looping, rfl⟩)
  have opened := owned.owned_open present
  rw [sockets, withSocket_sockets] at opened ⊢
  split at opened
  · exact absurd rfl opened
  · next different => rwa [if_neg different]

theorem serve {id : Nat} {thread : ServeThread} (silenced : server.Silenced)
    (phased : server.Phased) (owned : after.Owned) (found : server.threads[id]? = some thread)
    (moves : ServeMove server id thread after) : after.Silenced := by
  have others {next : ServeThread} (quiet : next.point.looping = false) (other : ServeThread)
      (member : other ∈ server.threads.set id next) (looping : other.point.looping = true) :
      ∃ former ∈ server.threads, former.point.looping = true ∧ former.socket = other.socket := by
    rcases List.mem_or_eq_of_mem_set member with old | rfl
    · exact ⟨other, old, looping, rfl⟩
    · rw [quiet] at looping
      cases looping
  cases moves with
  | @walked next walks =>
      cases begun : server.owner.unshut with
      | none =>
          intro rest given
          cases begun.symm.trans given
      | some rest =>
          refine silenced.of_before rfl ?_ fun _ _ _ shut => shut
          intro other member looping
          rcases List.mem_or_eq_of_mem_set member with old | rfl
          · exact ⟨other, old, looping, rfl⟩
          · rcases walks.loops looping with before | unasked
            · exact ⟨thread, List.mem_of_getElem? found, before, walks.socket.symm⟩
            · have requested := phased.asked (asked_of_unshut begun)
              rw [unasked] at requested
              cases requested
  | entered here | inserted here | erased here | left here =>
      exact silenced.of_before rfl (others rfl) fun _ _ _ shut => shut
  | locked free here =>
      refine silenced.of_before rfl (others ?_) fun _ _ _ shut => shut
      rcases here with ⟨_, rfl⟩ | ⟨_, rfl⟩ <;> rfl
  | shut here =>
      obtain ⟨sockets, same, _, kept, _⟩ := server.shutdownSocket_frame thread.socket
      rw [same]
      exact silenced.of_before rfl (others rfl) fun other _ _ shut => kept other.socket shut
  | closed here =>
      exact silenced.of_before rfl (others rfl) fun other member looping shut =>
        shut_of_closed owned rfl member looping shut

theorem accept (silenced : server.Silenced) (owned : after.Owned)
    (moves : AcceptMove server after) : after.Silenced := by
  have present (thread : ServeThread) (member : thread ∈ server.threads)
      (looping : thread.point.looping = true) :
      ∃ former ∈ server.threads, former.point.looping = true ∧ former.socket = thread.socket :=
    ⟨thread, member, looping, rfl⟩
  cases moves with
  | walked | left | locked | collected =>
      exact silenced.of_before rfl present fun _ _ _ shut => shut
  | @took socket here fresh =>
      refine silenced.of_before rfl present fun thread _ _ shut => ?_
      have different : thread.socket ≠ socket := by
        intro same
        rw [same, fresh] at shut
        cases shut
      exact (if_neg different).trans shut
  | refused here full =>
      exact silenced.of_before rfl present fun thread member looping shut =>
        shut_of_closed owned rfl member looping shut
  | admitted here room =>
      refine silenced.of_before rfl ?_ fun _ _ _ shut => shut
      intro thread member looping
      rcases List.mem_append.mp member with old | new
      · exact present thread old looping
      · rw [List.mem_singleton.mp new] at looping
        cases looping

theorem control (silenced : server.Silenced) (owned : server.Owned)
    (moves : OwnerMove server after) : after.Silenced := by
  cases moves with
  | requested here | signalled here | closed here =>
      intro rest begun
      cases begun
  | lockedSockets free here =>
      intro rest begun thread member looping
      cases begun
      refine .inr (owned.registry.mem_iff.mpr ?_)
      exact Pool.mem_chosen.mpr ⟨thread, member, registered_of_looping looping, rfl⟩
  | @shut joins socket rest here =>
      obtain ⟨sockets, same, _, kept, shuts⟩ := server.shutdownSocket_frame socket
      rw [same]
      intro others begun thread member looping
      cases begun
      rcases silenced _ (by rw [here]; rfl) thread member looping with shut | pending
      · exact .inl (kept thread.socket shut)
      · rcases List.mem_cons.mp pending with rfl | later
        · exact .inl (shuts (owned.registered_open (owned.rest joins _ here _ List.mem_cons_self)))
        · exact .inr later
  | @released joins here =>
      intro rest begun
      cases joins with
      | false => cases begun
      | true =>
          cases begun
          exact silenced _ (by rw [here]; rfl)
  | joinedAcceptor here _ | lockedSessions _ here | detached here | joined here _ | alone here =>
      intro rest begun
      cases begun
      exact silenced _ (by rw [here]; rfl)

theorem move (silenced : server.Silenced) (phased : server.Phased) (before : server.Owned)
    (owned : after.Owned) {event : ServerEvent} (moves : Move server event after) :
    after.Silenced := by
  cases moves with
  | called outside moves =>
      have resting {resulting : CoordinatorServer} (still : resulting.owner = server.owner) :
          resulting.Silenced := by
        intro rest begun
        rw [still, outside] at begun
        cases begun
      cases moves with
      | returned | refused | started | terminated => exact resting rfl
      | stopping | joining =>
          intro rest begun
          cases begun
  | owner moves => exact silenced.control before moves
  | acceptor moves => exact silenced.accept owned moves
  | session found moves => exact silenced.serve phased owned found moves

end Silenced

end Silence

/-- What is true of the server in every state that it reaches. -/
structure Sound (server : CoordinatorServer) : Prop where
  phased : server.Phased
  locked : server.Locked
  owned : server.Owned
  tracked : server.Tracked
  heeding : server.Heeding
  silenced : server.Silenced

theorem Sound.move (sound : server.Sound) (alive : server.terminated = false)
    {event : ServerEvent} (moves : Move server event after) : after.Sound := by
  have owned := sound.owned.move sound.phased sound.locked moves
  exact ⟨sound.phased.move alive moves, sound.locked.move moves, owned,
    sound.tracked.move sound.phased moves, sound.heeding.move sound.tracked moves,
    sound.silenced.move sound.phased sound.owned owned moves⟩

theorem sound_initial (maxSessions : Nat) : Sound { maxSessions } where
  phased := ⟨Bool.noConfusion, Bool.noConfusion, rfl, Bool.noConfusion, fun _ => rfl,
    fun _ => Bool.noConfusion, fun _ => rfl, fun _ => rfl, fun _ _ => rfl,
    fun lost => absurd rfl lost, Bool.noConfusion⟩
  locked := ⟨by simp, by simp [AcceptPoint.holds], by simp [ControlPoint.holds]⟩
  owned := ⟨List.nodup_nil, fun _ => iff_of_false (fun opened => opened rfl) List.not_mem_nil,
    .refl _, fun _ _ shutting => (by cases shutting)⟩
  tracked := by
    refine ⟨fun _ _ found => (by cases found), fun _ member => (by cases member), ?_,
      Nat.zero_le _, rfl, Bool.noConfusion, fun _ => .inr rfl⟩
    intro id listed
    rcases listed with member | member | member <;> cases member
  heeding := fun _ given => Bool.noConfusion given
  silenced := fun _ begun => by cases begun

theorem sound_run (maxSessions : Nat) (events : List ServerEvent) :
    (Runs.run step { maxSessions } events).Sound := by
  have kept (server : CoordinatorServer) (event : ServerEvent) (sound : server.Sound) :
      (server.step event).Sound :=
    step_of_moves sound (fun _ _ alive moves => sound.move alive moves) event
  exact Runs.invariant kept (sound_initial maxSessions) events

end PortFabric.CoordinatorServer
