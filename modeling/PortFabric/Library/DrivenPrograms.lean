import PortFabric.Library.LockPrograms

/-!
# Driven programs

A lock program that runs alone against an outside with a state of its own. Where
the calls it makes leave the outside as it is, it runs as with fixed answers.
-/

set_option autoImplicit false

namespace LockPrograms.Program

variable {μ σ ν κ α β ε : Type} {ρ : κ → Type}

/-- What a program does when no other thread takes a step and the outside answers its calls. -/
def drive (outside : (out : κ) → ε → ε × ρ out) : Program μ σ ν ρ α → σ → ε → (σ × ε) × α
  | done value, state, world => ((state, world), value)
  | acquire _ next, state, world => next.drive outside state world
  | release _ next, state, world => next.drive outside state world
  | access _ update next, state, world => (next state).drive outside (update state) world
  | call out next, state, world =>
      (next (outside out world).2).drive outside state (outside out world).1

section Drive

variable (outside : (out : κ) → ε → ε × ρ out) (state : σ) (world : ε)

@[simp] theorem drive_done (value : α) :
    (done value : Program μ σ ν ρ α).drive outside state world = ((state, world), value) := rfl

@[simp] theorem drive_bind (program : Program μ σ ν ρ α) (next : α → Program μ σ ν ρ β) :
    (program >>= next).drive outside state world =
      (next (program.drive outside state world).2).drive outside
        (program.drive outside state world).1.1 (program.drive outside state world).1.2 := by
  induction program generalizing state world with
  | done value => rfl
  | acquire hold rest ih => exact ih state world
  | release hold rest ih => exact ih state world
  | access name update rest ih => exact ih state (update state) world
  | call out rest ih => exact ih (outside out world).2 state (outside out world).1

@[simp] theorem drive_visit (name : ν) (body : σ → σ × α) :
    (visit name body : Program μ σ ν ρ α).drive outside state world =
      (((body state).1, world), (body state).2) := rfl

@[simp] theorem drive_read (name : ν) (view : σ → α) :
    (read name view : Program μ σ ν ρ α).drive outside state world =
      ((state, world), view state) := by
  simp only [read, drive, id_eq]

@[simp] theorem drive_guarded (hold : Hold μ) (body : Program μ σ ν ρ α) :
    (guarded hold body).drive outside state world = body.drive outside state world := by
  have inside := drive_bind outside state world body fun value => .release hold (.done value)
  exact inside

@[simp] theorem drive_request (out : κ) :
    (request out : Program μ σ ν ρ (ρ out)).drive outside state world =
      ((state, (outside out world).1), (outside out world).2) := rfl

/-- A program that can fail goes on only when its first part succeeds. -/
theorem drive_attempt {failure : Type} (first : ExceptT failure (Program μ σ ν ρ) α)
    (rest : α → ExceptT failure (Program μ σ ν ρ) β) :
    (first >>= rest).run.drive outside state world =
      match first.run.drive outside state world with
      | (after, .error error) => (after, .error error)
      | (after, .ok value) => (rest value).run.drive outside after.1 after.2 := by
  have inside := drive_bind outside state world first.run (ExceptT.bindCont rest)
  refine inside.trans ?_
  cases first.run.drive outside state world with
  | mk after outcome => cases outcome <;> rfl

theorem drive_lift {failure : Type} (program : Program μ σ ν ρ α) :
    (ExceptT.lift program : ExceptT failure (Program μ σ ν ρ) α).run.drive outside state world =
      ((program.drive outside state world).1, .ok (program.drive outside state world).2) := by
  have lifted := drive_bind outside state world program fun value =>
    (done (.ok value) : Program μ σ ν ρ (Except failure α))
  exact lifted

end Drive

/-- Every call that the program can make is allowed. -/
def Makes (allowed : κ → Prop) : Program μ σ ν ρ α → Prop
  | done _ => True
  | acquire _ next => next.Makes allowed
  | release _ next => next.Makes allowed
  | access _ _ next => ∀ state, (next state).Makes allowed
  | call out next => allowed out ∧ ∀ answer, (next answer).Makes allowed

section Makes

variable {allowed : κ → Prop} {program : Program μ σ ν ρ α} {next : α → Program μ σ ν ρ β}

theorem makes_done (value : α) : (done value : Program μ σ ν ρ α).Makes allowed := trivial

theorem Makes.bind (first : program.Makes allowed) (rest : ∀ value, (next value).Makes allowed) :
    (program >>= next).Makes allowed := by
  induction program with
  | done value => exact rest value
  | acquire hold continuation ih => exact ih first
  | release hold continuation ih => exact ih first
  | access name update continuation ih => exact fun state => ih state (first state)
  | call out continuation ih => exact ⟨first.1, fun answer => ih answer (first.2 answer)⟩

theorem Makes.guarded {hold : Hold μ} (body : program.Makes allowed) :
    (program.guarded hold).Makes allowed :=
  @Makes.bind _ _ _ _ _ _ _ _ program (fun value => .release hold (.done value)) body
    fun _ => trivial

theorem makes_visit (name : ν) (body : σ → σ × α) :
    (visit name body : Program μ σ ν ρ α).Makes allowed := fun _ => trivial

theorem makes_read (name : ν) (view : σ → α) :
    (read name view : Program μ σ ν ρ α).Makes allowed := fun _ => trivial

theorem makes_write (name : ν) (update : σ → σ) :
    (write name update : Program μ σ ν ρ Unit).Makes allowed := fun _ => trivial

theorem makes_request {out : κ} (permitted : allowed out) :
    (request out : Program μ σ ν ρ (ρ out)).Makes allowed := ⟨permitted, fun _ => trivial⟩

theorem Makes.ite {condition : Prop} [Decidable condition] {first second : Program μ σ ν ρ α}
    (positive : condition → first.Makes allowed) (negative : ¬condition → second.Makes allowed) :
    (if condition then first else second).Makes allowed := by
  split
  · next met => exact positive met
  · next unmet => exact negative unmet

theorem Makes.attempt {failure : Type} {first : ExceptT failure (Program μ σ ν ρ) α}
    {rest : α → ExceptT failure (Program μ σ ν ρ) β} (begun : first.run.Makes allowed)
    (continued : ∀ value, (rest value).run.Makes allowed) : (first >>= rest).run.Makes allowed := by
  refine Makes.bind begun fun outcome => ?_
  cases outcome with
  | error failure => exact makes_done _
  | ok value => exact continued value

theorem Makes.lift {failure : Type} (makes : program.Makes allowed) :
    (ExceptT.lift program : ExceptT failure (Program μ σ ν ρ) α).run.Makes allowed :=
  Makes.bind makes fun _ => trivial

/-- Calls that leave the outside as it is are as good as calls with fixed answers. -/
theorem Makes.drive_eq_run {outside : (out : κ) → ε → ε × ρ out} {answers : (out : κ) → ρ out}
    {world : ε} (makes : program.Makes allowed)
    (quiet : ∀ out, allowed out → outside out world = (world, answers out)) (state : σ) :
    program.drive outside state world =
      (((program.run answers state).1, world), (program.run answers state).2) := by
  induction program generalizing state with
  | done value => rfl
  | acquire hold next ih => exact ih makes state
  | release hold next ih => exact ih makes state
  | access name update next ih => exact ih state (makes state) (update state)
  | call out next ih =>
      have still := quiet out makes.1
      simp only [drive, still]
      exact ih (answers out) (makes.2 _) state

end Makes

end LockPrograms.Program
