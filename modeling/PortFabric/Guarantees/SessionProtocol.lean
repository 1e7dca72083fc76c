import PortFabric.Protocol.Session

/-!
# Session protocol

Mutations and queries reach the service only after a Hello of the session was
accepted. A request to fence a publisher reaches it in any session.
-/

set_option autoImplicit false

namespace PortFabric

namespace ServiceCall

/-- An opening handshake the service accepted. -/
def opens : ServiceCall → Bool
  | hello _ outcome => outcome.accepted
  | _ => false

/-- An entry point reserved for open sessions. -/
def needsHello : ServiceCall → Bool
  | mutation _ | query _ | fence _ => true
  | _ => false

end ServiceCall

/-- Reserved entry points are invoked only after an accepted handshake. -/
def HandshakeFirst (calls : List ServiceCall) : Prop :=
  ∀ before call after, calls = before ++ call :: after → call.needsHello = true →
    ∃ opening ∈ before, opening.opens = true

namespace Reception

variable (reception : Reception)

/-- A readable Hello that the service accepts. -/
def opens : Bool :=
  match reception.received with
  | .error _ => false
  | .ok frame =>
      frame.type = .hello &&
        match decodeHello frame.payload with
        | .error _ => false
        | .ok hello => (reception.service.onHello hello).1.accepted

/-- A readable request to fence a publisher. -/
def fences : Bool :=
  match reception.received with
  | .error _ => false
  | .ok frame =>
      frame.type = .fencePublisher &&
        match decodeFence frame.payload with
        | .error _ => false
        | .ok _ => true

/-- The session goes on after a frame that is not a response. -/
def continues : Bool :=
  match reception.received with
  | .error _ => false
  | .ok frame => !isResponse frame.type

end Reception

/-- A readable fence request arrives while the session goes on and no Hello was accepted. -/
def EarlyFence : List Reception → Prop
  | [] => False
  | reception :: later =>
      reception.fences = true ∨
        reception.continues = true ∧ reception.opens = false ∧ EarlyFence later

section Calls

variable {calls more : List ServiceCall} {call : ServiceCall}

theorem HandshakeFirst.nil : HandshakeFirst [] := by
  intro before call after same
  exact absurd same.symm (List.append_ne_nil_of_right_ne_nil _ (by simp))

theorem HandshakeFirst.of_opened {opening : ServiceCall} (opened : opening.opens = true) :
    HandshakeFirst (opening :: more) := by
  intro before call after same guarded
  cases before with
  | nil =>
      obtain ⟨rfl, _⟩ := List.cons.inj same
      cases opening <;> first | cases opened | cases guarded
  | cons first before =>
      obtain ⟨rfl, _⟩ := List.cons.inj same
      exact ⟨opening, List.mem_cons_self .., opened⟩

theorem handshakeFirst_cons (free : call.needsHello = false) (idle : call.opens = false) :
    HandshakeFirst (call :: more) ↔ HandshakeFirst more := by
  constructor
  · intro kept before guarded after same needs
    obtain ⟨opening, member, opened⟩ :=
      kept (call :: before) guarded after (by rw [same]; rfl) needs
    obtain rfl | found := List.mem_cons.mp member
    · rw [idle] at opened
      cases opened
    · exact ⟨opening, found, opened⟩
  · intro kept before guarded after same needs
    cases before with
    | nil =>
        obtain ⟨rfl, _⟩ := List.cons.inj same
        rw [free] at needs
        cases needs
    | cons first before =>
        obtain ⟨rfl, rest⟩ := List.cons.inj same
        obtain ⟨opening, member, opened⟩ := kept before guarded after rest needs
        exact ⟨opening, List.mem_cons_of_mem _ member, opened⟩

theorem handshakeFirst_append
    (idle : ∀ call ∈ calls, call.needsHello = false ∧ call.opens = false) :
    HandshakeFirst (calls ++ more) ↔ HandshakeFirst more := by
  induction calls with
  | nil => rfl
  | cons call calls ih =>
      obtain ⟨free, unopened⟩ := idle call (List.mem_cons_self ..)
      rw [List.cons_append, handshakeFirst_cons free unopened,
        ih fun other member => idle other (List.mem_cons_of_mem _ member)]

theorem not_handshakeFirst (needs : call.needsHello = true) :
    ¬HandshakeFirst (call :: more) := by
  intro kept
  obtain ⟨_, member, _⟩ := kept [] call more rfl needs
  cases member

end Calls

section Steps

variable {session : Session} {reception : Reception}

theorem Session.step_opens (opens : reception.opens = true) :
    ∃ opening, (session.step reception).calls = [opening] ∧ opening.opens = true := by
  unfold Reception.opens at opens
  split at opens
  · cases opens
  · next frame received =>
      rw [Bool.and_eq_true, decide_eq_true_eq] at opens
      obtain ⟨type, accepted⟩ := opens
      split at accepted
      · cases accepted
      · next hello decoded =>
          simp only [step, received, handle, type, serveHello, decoded]
          exact ⟨_, rfl, accepted⟩

theorem Session.step_fences (fences : reception.fences = true) :
    ∃ message, (session.step reception).calls = [.fence message] := by
  unfold Reception.fences at fences
  split at fences
  · cases fences
  · next frame received =>
      rw [Bool.and_eq_true, decide_eq_true_eq] at fences
      obtain ⟨type, readable⟩ := fences
      split at readable
      · cases readable
      · next message decoded =>
          simp only [step, received, handle, type, serveFencePublisher, decoded]
          exact ⟨message, rfl⟩

/-- A round that neither opens nor fences leaves a closed session closed. -/
theorem Session.step_idle (closed : session.helloSeen = false) (live : session.ended = false)
    (unopened : reception.opens = false) (unfenced : reception.fences = false) :
    (∀ call ∈ (session.step reception).calls, call.needsHello = false ∧ call.opens = false) ∧
      (session.step reception).session.helloSeen = false ∧
      (session.step reception).session.ended = !reception.continues := by
  obtain ⟨service, received⟩ := reception
  cases received with
  | error failure =>
      cases failure with
      | lost error => exact ⟨List.forall_mem_nil _, closed, rfl⟩
      | malformed message => exact ⟨List.forall_mem_nil _, closed, rfl⟩
  | ok frame =>
      cases type : frame.type with
      | hello =>
          simp only [Reception.opens, type, decide_true, Bool.true_and] at unopened
          simp only [step, handle, type, serveHello, Reception.continues, isResponse]
          split
          · exact ⟨List.forall_mem_nil _, closed, live⟩
          · next hello decoded =>
              rw [decoded] at unopened
              exact ⟨List.forall_mem_singleton.mpr ⟨rfl, unopened⟩, unopened, live⟩
      | fencePublisher =>
          simp only [Reception.fences, type, decide_true, Bool.true_and] at unfenced
          simp only [step, handle, type, serveFencePublisher, Reception.continues, isResponse]
          split
          · exact ⟨List.forall_mem_nil _, closed, live⟩
          · next message decoded =>
              rw [decoded] at unfenced
              cases unfenced
      | registerPublisher | mutation | query =>
          simp only [step, handle, type, serveRegisterPublisher, serveMutation, serveQuery,
            afterHello, closed, Bool.not_false, if_true, Reception.continues, isResponse]
          exact ⟨List.forall_mem_nil _, rfl, live⟩
      | heartbeat | shutdown | illegal | helloAck | registerPublisherAck | mutationAck
      | queryAck | fencePublisherAck | heartbeatAck | errorResponse =>
          simp only [step, handle, type, Reception.continues, isResponse]
          exact ⟨List.forall_mem_nil _, closed, by first | exact live | rfl⟩

/-- A closed session reaches the reserved entry points only by an early fence request. -/
theorem Session.handshakeFirst_iff {receptions : List Reception}
    (closed : session.helloSeen = false) (live : session.ended = false) :
    HandshakeFirst (session.calls receptions) ↔ ¬EarlyFence receptions := by
  induction receptions generalizing session with
  | nil => exact iff_of_true .nil id
  | cons reception later ih =>
      simp only [Session.calls, serve, List.flatMap_cons, EarlyFence]
      cases fences : reception.fences with
      | true =>
          obtain ⟨message, invoked⟩ := session.step_fences fences
          rw [invoked]
          refine iff_of_false (not_handshakeFirst rfl) ?_
          simp
      | false =>
          cases opens : reception.opens with
          | true =>
              obtain ⟨opening, invoked, opened⟩ := session.step_opens opens
              rw [invoked]
              refine iff_of_true (.of_opened opened) ?_
              simp
          | false =>
              obtain ⟨idle, stillClosed, ended⟩ := session.step_idle closed live opens fences
              rw [handshakeFirst_append idle, ended]
              cases continues : reception.continues with
              | false => simpa using HandshakeFirst.nil
              | true =>
                  rw [continues] at ended
                  have rest := ih stillClosed ended
                  simpa [Session.calls] using rest

end Steps

/-- The reserved entry points wait for the handshake unless a fence request comes first. -/
theorem handshake_first_iff (receptions : List Reception) :
    HandshakeFirst (Session.calls {} receptions) ↔ ¬EarlyFence receptions :=
  Session.handshakeFirst_iff rfl rfl

namespace UnopenedFence

/-- A fence request for an incarnation of a publisher. -/
def request : Frame where
  type := .fencePublisher
  payload := ByteWriter.out <| ByteWriter.writeFence { limit := maxFrameBytes }
    { publisher := "agent-a", boot := "boot-1" }

/-- The first frame of the session is the fence request. -/
def receptions (service : CoordinatorService) : List Reception := [⟨service, .ok request⟩]

set_option maxRecDepth 100000 in
theorem readable (service : CoordinatorService) : EarlyFence (receptions service) := by
  refine .inl ?_
  have decoded : decodeFence request.payload =
      .ok { publisher := "agent-a", boot := "boot-1" } := by
    decide +kernel
  have type : request.type = .fencePublisher := rfl
  simp [Reception.fences, decoded, type]

/-- A fence request reaches the service without any handshake. -/
theorem fence_unopened :
    ¬∀ receptions : List Reception, HandshakeFirst (Session.calls {} receptions) := by
  intro kept
  obtain ⟨service⟩ : Nonempty CoordinatorService :=
    ⟨{ onHello := fun _ => (.success, .null)
       onRegisterPublisher := fun _ => .success
       onMutation := fun _ => { outcome := .success }
       onQuery := fun message => { outcome := .success, kind := message.kind }
       onFence := fun _ => .success }⟩
  exact (Session.handshakeFirst_iff rfl rfl).mp (kept (receptions service)) (readable service)

end UnopenedFence

end PortFabric
