import PortFabric.Library.Runs

/-!
# Lock programs

Programs of the threads of a component that guards its state with locks: they
take and release locks, access the state, and call out of the component. The
step relation keeps the locks each thread holds. A program is disciplined when
it calls out with no lock held, except where a named access exposes it.
-/

set_option autoImplicit false

namespace LockPrograms

inductive Mode where
  | shared | exclusive
  deriving DecidableEq

/-- A lock as a thread takes it. -/
structure Hold (μ : Type) where
  mutex : μ
  mode : Mode
  deriving DecidableEq

/-- Locks `μ`, shared state `σ`, names of accesses `ν`, and the answers `ρ` to calls out. -/
inductive Program (μ σ ν : Type) {κ : Type} (ρ : κ → Type) (α : Type) where
  | done (value : α)
  | acquire (hold : Hold μ) (next : Program μ σ ν ρ α)
  | release (hold : Hold μ) (next : Program μ σ ν ρ α)
  /-- The rest of the program sees the state before the update. -/
  | access (name : ν) (update : σ → σ) (next : σ → Program μ σ ν ρ α)
  | call (request : κ) (next : ρ request → Program μ σ ν ρ α)

variable {μ σ ν κ ι α β : Type} {ρ : κ → Type}

namespace Program

def bind (program : Program μ σ ν ρ α) (next : α → Program μ σ ν ρ β) : Program μ σ ν ρ β :=
  match program with
  | done value => next value
  | acquire hold rest => .acquire hold (rest.bind next)
  | release hold rest => .release hold (rest.bind next)
  | access name update rest => .access name update fun state => (rest state).bind next
  | call request rest => .call request fun answer => (rest answer).bind next

instance : Monad (Program μ σ ν ρ) where
  pure := done
  bind := bind

def visit (name : ν) (body : σ → σ × α) : Program μ σ ν ρ α :=
  .access name (fun state => (body state).1) fun state => .done (body state).2

def read (name : ν) (view : σ → α) : Program μ σ ν ρ α :=
  .access name id fun state => .done (view state)

def write (name : ν) (update : σ → σ) : Program μ σ ν ρ Unit :=
  .access name update fun _ => .done ()

def request (out : κ) : Program μ σ ν ρ (ρ out) :=
  .call out done

/-- The scope of a lock, which is released however the body ends. -/
def guarded (hold : Hold μ) (body : Program μ σ ν ρ α) : Program μ σ ν ρ α :=
  .acquire hold (body.bind fun value => .release hold (.done value))

@[simp] theorem pure_eq (value : α) : (pure value : Program μ σ ν ρ α) = done value := rfl

@[simp] theorem done_bind (value : α) (next : α → Program μ σ ν ρ β) :
    (done value >>= next) = next value := rfl

/-- What a program does when no other thread takes a step. -/
def run (answers : (out : κ) → ρ out) : Program μ σ ν ρ α → σ → σ × α
  | done value, state => (state, value)
  | acquire _ next, state => next.run answers state
  | release _ next, state => next.run answers state
  | access _ update next, state => (next state).run answers (update state)
  | call out next, state => (next (answers out)).run answers state

section Run

variable (answers : (out : κ) → ρ out) (state : σ)

@[simp] theorem run_done (value : α) :
    (done value : Program μ σ ν ρ α).run answers state = (state, value) := rfl

@[simp] theorem run_bind (program : Program μ σ ν ρ α) (next : α → Program μ σ ν ρ β) :
    (program >>= next).run answers state =
      (next (program.run answers state).2).run answers (program.run answers state).1 := by
  induction program generalizing state with
  | done value => rfl
  | acquire hold rest ih => exact ih state
  | release hold rest ih => exact ih state
  | access name update rest ih => exact ih state (update state)
  | call out rest ih => exact ih (answers out) state

@[simp] theorem run_visit (name : ν) (body : σ → σ × α) :
    (visit name body : Program μ σ ν ρ α).run answers state = body state := rfl

@[simp] theorem run_read (name : ν) (view : σ → α) :
    (read name view : Program μ σ ν ρ α).run answers state = (state, view state) := by
  simp only [read, run, id_eq]

@[simp] theorem run_write (name : ν) (update : σ → σ) :
    (write name update : Program μ σ ν ρ Unit).run answers state = (update state, ()) := rfl

@[simp] theorem run_request (out : κ) :
    (request out : Program μ σ ν ρ (ρ out)).run answers state = (state, answers out) := by
  simp only [request, run]

@[simp] theorem run_guarded (hold : Hold μ) (body : Program μ σ ν ρ α) :
    (guarded hold body).run answers state = body.run answers state := by
  have inside := run_bind answers state body fun value => .release hold (.done value)
  exact inside

theorem run_ite (condition : Prop) [Decidable condition] (first second : Program μ σ ν ρ α) :
    (if condition then first else second).run answers state =
      if condition then first.run answers state else second.run answers state := by
  split <;> rfl

/-- A program that can fail goes on only when its first part succeeds. -/
theorem run_attempt {ε : Type} (first : ExceptT ε (Program μ σ ν ρ) α)
    (rest : α → ExceptT ε (Program μ σ ν ρ) β) :
    (first >>= rest).run.run answers state =
      match first.run.run answers state with
      | (after, .error failure) => (after, .error failure)
      | (after, .ok value) => (rest value).run.run answers after := by
  have inside := run_bind answers state first.run (ExceptT.bindCont rest)
  refine inside.trans ?_
  cases first.run.run answers state with
  | mk after outcome => cases outcome <;> rfl

theorem run_lift {ε : Type} (program : Program μ σ ν ρ α) :
    (ExceptT.lift program : ExceptT ε (Program μ σ ν ρ) α).run.run answers state =
      ((program.run answers state).1, .ok (program.run answers state).2) := by
  have lifted := run_bind answers state program fun value =>
    (done (.ok value) : Program μ σ ν ρ (Except ε α))
  exact lifted

/-- Where the first part only reads, its outcome decides whether the rest runs. -/
theorem run_attempt_reading {ε : Type} {first : ExceptT ε (Program μ σ ν ρ) α}
    {rest : α → ExceptT ε (Program μ σ ν ρ) β} {outcome : Except ε α} {next : α → Except ε β}
    {answers : (out : κ) → ρ out} {state : σ}
    (reads : first.run.run answers state = (state, outcome))
    (continued : ∀ value, (rest value).run.run answers state = (state, next value)) :
    (first >>= rest).run.run answers state = (state, outcome >>= next) := by
  rw [run_attempt, reads]
  cases outcome with
  | error failure => rfl
  | ok value => exact continued value

end Run

/-- The program is at a restricted call. -/
def CallsOut (restricted : κ → Prop) : Program μ σ ν ρ α → Prop
  | call out _ => restricted out
  | _ => False

instance (restricted : κ → Prop) [DecidablePred restricted] :
    (program : Program μ σ ν ρ α) → Decidable (program.CallsOut restricted)
  | done _ => inferInstanceAs (Decidable False)
  | acquire _ _ => inferInstanceAs (Decidable False)
  | release _ _ => inferInstanceAs (Decidable False)
  | access _ _ _ => inferInstanceAs (Decidable False)
  | call out _ => inferInstanceAs (Decidable (restricted out))

variable {restricted : κ → Prop} {exposed : ν → σ → Prop}

theorem CallsOut.bind {program : Program μ σ ν ρ α} (next : α → Program μ σ ν ρ β)
    (calls : program.CallsOut restricted) : (program >>= next).CallsOut restricted := by
  cases program with
  | call out rest => exact calls
  | _ => exact calls.elim

variable [DecidableEq μ]

/--
From the locks held, every restricted call of the program is made with no lock
held, unless an exposed access makes it under one, and the program ends with
the locks of `final` held.
-/
def Disciplined (restricted : κ → Prop) (exposed : ν → σ → Prop) (final : List (Hold μ)) :
    Program μ σ ν ρ α → List (Hold μ) → Prop
  | done _, held => held = final
  | acquire hold next, held => next.Disciplined restricted exposed final (hold :: held)
  | release hold next, held => next.Disciplined restricted exposed final (held.erase hold)
  | access name _ next, held => ∀ state,
      (exposed name state → held ≠ [] ∧ (next state).CallsOut restricted) ∧
        (¬exposed name state → (next state).Disciplined restricted exposed final held)
  | call out next, held =>
      (restricted out → held = []) ∧
        ∀ answer, (next answer).Disciplined restricted exposed final held

variable {held final : List (Hold μ)} {program : Program μ σ ν ρ α}

theorem Disciplined.unlocked (disciplined : program.Disciplined restricted exposed final held)
    (calls : program.CallsOut restricted) : held = [] := by
  cases program with
  | call out next => exact disciplined.1 calls
  | _ => exact calls.elim

theorem disciplined_done (value : α) :
    (done value : Program μ σ ν ρ α).Disciplined restricted exposed held held := rfl

theorem Disciplined.bind {middle : List (Hold μ)} {next : α → Program μ σ ν ρ β}
    (first : program.Disciplined restricted exposed middle held)
    (rest : ∀ value, (next value).Disciplined restricted exposed final middle) :
    (program >>= next).Disciplined restricted exposed final held := by
  induction program generalizing held with
  | done value =>
      have same : held = middle := first
      rw [same]
      exact rest value
  | acquire hold continuation ih => exact ih first
  | release hold continuation ih => exact ih first
  | access name update continuation ih =>
      intro state
      obtain ⟨shown, hidden⟩ := first state
      exact ⟨fun exposes => ⟨(shown exposes).1, (shown exposes).2.bind next⟩,
        fun conceals => ih state (hidden conceals)⟩
  | call out continuation ih => exact ⟨first.1, fun answer => ih answer (first.2 answer)⟩

theorem Disciplined.guarded {hold : Hold μ}
    (body : program.Disciplined restricted exposed (hold :: held) (hold :: held)) :
    (program.guarded hold).Disciplined restricted exposed held held := by
  refine Disciplined.bind body fun value => ?_
  change (hold :: held).erase hold = held
  exact List.erase_cons_head ..

theorem Disciplined.attempt {ε : Type} {first : ExceptT ε (Program μ σ ν ρ) α}
    {rest : α → ExceptT ε (Program μ σ ν ρ) β}
    (begun : first.run.Disciplined restricted exposed held held)
    (continued : ∀ value, (rest value).run.Disciplined restricted exposed held held) :
    (first >>= rest).run.Disciplined restricted exposed held held := by
  refine Disciplined.bind begun fun outcome => ?_
  cases outcome with
  | error failure => exact disciplined_done _
  | ok value => exact continued value

theorem disciplined_request {out : κ} (unlocked : restricted out → held = []) :
    (request out : Program μ σ ν ρ (ρ out)).Disciplined restricted exposed held held :=
  ⟨unlocked, fun _ => rfl⟩

section Accesses

variable {name : ν} (concealed : ∀ state, ¬exposed name state)

include concealed

theorem disciplined_access {update : σ → σ} {next : σ → Program μ σ ν ρ α}
    (rest : ∀ state, (next state).Disciplined restricted exposed final held) :
    (access name update next).Disciplined restricted exposed final held :=
  fun state => ⟨fun exposes => absurd exposes (concealed state), fun _ => rest state⟩

theorem disciplined_visit (body : σ → σ × α) :
    (visit name body : Program μ σ ν ρ α).Disciplined restricted exposed held held :=
  disciplined_access concealed fun _ => rfl

theorem disciplined_read (view : σ → α) :
    (read name view : Program μ σ ν ρ α).Disciplined restricted exposed held held :=
  disciplined_access concealed fun _ => rfl

theorem disciplined_write (update : σ → σ) :
    (write name update : Program μ σ ν ρ Unit).Disciplined restricted exposed held held :=
  disciplined_access concealed fun _ => rfl

end Accesses

end Program

/-- A call in progress: the locks its thread holds, and what it has left to do. -/
structure Thread (μ σ ν : Type) {κ : Type} (ρ : κ → Type) (α : Type) where
  held : List (Hold μ) := []
  program : Program μ σ ν ρ α

structure System (μ σ ν : Type) {κ : Type} (ρ : κ → Type) (α : Type) where
  state : σ
  threads : List (Thread μ σ ν ρ α) := []

/-- An operation is called, or a thread takes a step with the answers to what it may call. -/
inductive Action {κ : Type} (ρ : κ → Type) (ι : Type) where
  | start (operation : ι)
  | advance (thread : Nat) (answers : (out : κ) → ρ out)

variable [DecidableEq μ]

/-- Two holds of one lock that are not both shared exclude each other. -/
def Hold.excludes (first second : Hold μ) : Bool :=
  first.mutex = second.mutex && !(first.mode = .shared && second.mode = .shared)

namespace System

/-- Nobody holds the lock in a way that excludes taking it. -/
def free (system : System μ σ ν ρ α) (hold : Hold μ) : Bool :=
  system.threads.all fun thread => thread.held.all fun other => !other.excludes hold

/-- One step of a thread; a lock that is not free leaves it waiting. -/
def proceed (system : System μ σ ν ρ α) (answers : (out : κ) → ρ out)
    (thread : Thread μ σ ν ρ α) : σ × Thread μ σ ν ρ α :=
  match thread.program with
  | .done _ => (system.state, thread)
  | .acquire hold next =>
      if system.free hold then (system.state, { held := hold :: thread.held, program := next })
      else (system.state, thread)
  | .release hold next => (system.state, { held := thread.held.erase hold, program := next })
  | .access _ update next =>
      (update system.state, { held := thread.held, program := next system.state })
  | .call out next => (system.state, { held := thread.held, program := next (answers out) })

def step (programs : ι → Program μ σ ν ρ α) (system : System μ σ ν ρ α) :
    Action ρ ι → System μ σ ν ρ α
  | .start operation =>
      { system with threads := system.threads ++ [{ program := programs operation }] }
  | .advance index answers =>
      match system.threads[index]? with
      | none => system
      | some thread =>
          let proceeded := system.proceed answers thread
          { state := proceeded.1, threads := system.threads.set index proceeded.2 }

/-- Every thread at a restricted call holds no lock. -/
def Unlocked (restricted : κ → Prop) (system : System μ σ ν ρ α) : Prop :=
  ∀ thread ∈ system.threads, thread.program.CallsOut restricted → thread.held = []

instance (restricted : κ → Prop) [DecidablePred restricted] (system : System μ σ ν ρ α) :
    Decidable (system.Unlocked restricted) :=
  inferInstanceAs (Decidable (∀ thread ∈ system.threads,
    thread.program.CallsOut restricted → thread.held = []))

/-- The step is an exposed access of its thread. -/
def Exposes (exposed : ν → σ → Prop) (system : System μ σ ν ρ α) : Action ρ ι → Prop
  | .start _ => False
  | .advance index _ => ∃ held name update next,
      system.threads[index]? = some { held, program := .access name update next } ∧
        exposed name system.state

/-- Every thread has a disciplined program left. -/
def Disciplined (restricted : κ → Prop) (exposed : ν → σ → Prop) (system : System μ σ ν ρ α) :
    Prop :=
  ∀ thread ∈ system.threads, thread.program.Disciplined restricted exposed [] thread.held

variable {restricted : κ → Prop} {exposed : ν → σ → Prop} {programs : ι → Program μ σ ν ρ α}
  {system : System μ σ ν ρ α}

theorem Disciplined.unlocked (disciplined : system.Disciplined restricted exposed) :
    system.Unlocked restricted :=
  fun thread member => (disciplined thread member).unlocked

/-- A step that is not an exposed access leaves its thread a disciplined program. -/
theorem proceed_disciplined {thread : Thread μ σ ν ρ α} (answers : (out : κ) → ρ out)
    (disciplined : thread.program.Disciplined restricted exposed [] thread.held)
    (concealed : ∀ name update next, thread.program = .access name update next →
      ¬exposed name system.state) :
    (system.proceed answers thread).2.program.Disciplined restricted exposed []
      (system.proceed answers thread).2.held := by
  obtain ⟨held, program⟩ := thread
  cases program with
  | done value => exact disciplined
  | acquire hold next =>
      simp only [proceed]
      split
      · exact disciplined
      · exact disciplined
  | release hold next => exact disciplined
  | access name update next =>
      exact (disciplined system.state).2 (concealed name update next rfl)
  | call out next => exact disciplined.2 (answers out)

/-- The threads stay disciplined as long as no access is exposed. -/
theorem step_disciplined
    (every : ∀ operation, (programs operation).Disciplined restricted exposed [] [])
    (disciplined : system.Disciplined restricted exposed) {action : Action ρ ι}
    (concealed : ¬system.Exposes exposed action) :
    (system.step programs action).Disciplined restricted exposed := by
  cases action with
  | start operation =>
      intro thread member
      rcases List.mem_append.mp member with former | new
      · exact disciplined thread former
      · rw [List.mem_singleton.mp new]
        exact every operation
  | advance index answers =>
      simp only [step]
      cases found : system.threads[index]? with
      | none => exact disciplined
      | some thread =>
          intro other member
          rcases List.mem_or_eq_of_mem_set member with former | rfl
          · exact disciplined other former
          · refine proceed_disciplined answers
              (disciplined thread (List.mem_of_getElem? found)) ?_
            intro name update next same exposes
            refine concealed ⟨thread.held, name, update, next, ?_, exposes⟩
            rw [found, ← same]

/-- An exposed access leaves its thread at a restricted call with a lock held. -/
theorem step_exposes (disciplined : system.Disciplined restricted exposed) {action : Action ρ ι}
    (exposes : system.Exposes exposed action) :
    ¬(system.step programs action).Unlocked restricted := by
  cases action with
  | start operation => exact exposes.elim
  | advance index answers =>
      obtain ⟨held, name, update, next, found, shown⟩ := exposes
      intro unlocked
      have promised := disciplined _ (List.mem_of_getElem? found)
      obtain ⟨locked, calls⟩ := (promised system.state).1 shown
      refine locked (unlocked { held, program := next system.state } ?_ calls)
      obtain ⟨within, _⟩ := List.getElem?_eq_some_iff.mp found
      simp only [step, found]
      exact List.mem_set within _

/--
Calls to disciplined programs, interleaved in any way: every thread at a
restricted call holds no lock throughout the run exactly when no step of the run
is an exposed access.
-/
theorem unlocked_throughout_iff
    (every : ∀ operation, (programs operation).Disciplined restricted exposed [] []) (state : σ)
    (actions : List (Action ρ ι)) :
    Runs.Throughout (step programs) (Unlocked restricted) { state } actions ↔
      Runs.Along (step programs) (fun system action => ¬system.Exposes exposed action) { state }
        actions := by
  have started : Disciplined restricted exposed ({ state } : System μ σ ν ρ α) :=
    fun _ => nofun
  have supported (system : System μ σ ν ρ α) (action : Action ρ ι)
      (disciplined : system.Disciplined restricted exposed) (_ : system.Unlocked restricted)
      (concealed : ¬system.Exposes exposed action) :
      (system.step programs action).Disciplined restricted exposed :=
    step_disciplined every disciplined concealed
  refine Runs.throughout_iff_along supported ?_ started started.unlocked
  intro system action disciplined _
  constructor
  · exact fun unlocked exposes => step_exposes disciplined exposes unlocked
  · exact fun concealed => (step_disciplined every disciplined concealed).unlocked

end System

end LockPrograms
