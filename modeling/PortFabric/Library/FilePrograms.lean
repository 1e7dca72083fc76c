import Mathlib.Logic.Function.Basic

/-!
# File programs

Programs over the primitives of a file system in which every call can succeed,
fail, report a success it did not have, or be cut short with the process. Only a
replacement is atomic. The rules carry an assertion that holds wherever a program
ends, and one that holds where it returns.
-/

set_option autoImplicit false

namespace FilePrograms

/-- The content of each file that exists. -/
abbrev Files (π β : Type) : Type := π → Option (List β)

inductive Primitive (π β : Type) where
  | remove (path : π)
  /-- Creates the file or empties it. -/
  | create (path : π)
  | append (path : π) (bytes : List β)
  | flush (path : π)
  | size (path : π)
  | openFile (path : π)
  | read (path : π) (count : Nat)
  | replace (source target : π)

/-- What a primitive reports when it does not fail. -/
abbrev Primitive.Report {π β : Type} : Primitive π β → Type
  | size _ => Nat
  | read _ _ => List β
  | remove _ | create _ | append _ _ | flush _ | openFile _ | replace _ _ => Unit

inductive Program (π β α : Type) where
  | done (value : α)
  | call (primitive : Primitive π β) (next : Option primitive.Report → Program π β α)

/-- What becomes of one call, with the bytes it leaves in its file unless it succeeds. -/
inductive Happening (β : Type) where
  | succeeds
  /-- It fails, and a replacement may have taken place. -/
  | fails (left : Option (List β)) (replaced : Bool)
  /-- It reports what it should have done. -/
  | garbles (left : Option (List β))
  /-- The process stops, and a replacement may have taken place. -/
  | stops (left : Option (List β)) (replaced : Bool)

variable {π β α γ : Type}

/-- The files a primitive can change. -/
def Primitive.Touches : Primitive π β → π → Prop
  | remove path, other | create path, other | append path _, other | flush path, other =>
      other = path
  | size _, _ | openFile _, _ | read _ _, _ => False
  | replace source target, other => other = source ∨ other = target

namespace Program

def bind (program : Program π β α) (next : α → Program π β γ) : Program π β γ :=
  match program with
  | done value => next value
  | call primitive rest => .call primitive fun report => (rest report).bind next

instance : Monad (Program π β) where
  pure := done
  bind := bind

/-- The call of one primitive, with its report. -/
def request (primitive : Primitive π β) : Program π β (Option primitive.Report) :=
  .call primitive done

@[simp] theorem pure_eq (value : α) : (pure value : Program π β α) = done value := rfl

@[simp] theorem done_bind (value : α) (next : α → Program π β γ) :
    (done value >>= next) = next value := rfl

/-- No call of the program touches the file. -/
def Avoids (path : π) : Program π β α → Prop
  | done _ => True
  | call primitive next => ¬primitive.Touches path ∧ ∀ report, (next report).Avoids path

theorem avoids_request {path : π} {primitive : Primitive π β}
    {next : Option primitive.Report → Program π β γ} (apart : ¬primitive.Touches path)
    (rest : ∀ report, (next report).Avoids path) : (request primitive >>= next).Avoids path :=
  ⟨apart, rest⟩

theorem Avoids.bind {path : π} {program : Program π β α} {next : α → Program π β γ}
    (first : program.Avoids path) (rest : ∀ value, (next value).Avoids path) :
    (program >>= next).Avoids path := by
  induction program with
  | done value => exact rest value
  | call primitive continuation ih => exact ⟨first.1, fun report => ih report (first.2 report)⟩

end Program

variable [DecidableEq π]

namespace Primitive

/-- What the primitive does and reports when nothing goes wrong. -/
def intended (files : Files π β) :
    (primitive : Primitive π β) → Files π β × Option primitive.Report
  | remove path => (Function.update files path none, some ())
  | create path => (Function.update files path (some []), some ())
  | append path bytes =>
      match files path with
      | none => (files, none)
      | some content => (Function.update files path (some (content ++ bytes)), some ())
  | flush _ => (files, some ())
  | size path => (files, (files path).map List.length)
  | openFile path => (files, (files path).map fun _ => ())
  | read path count =>
      (files, (files path).bind fun content =>
        if count ≤ content.length then some (content.take count) else none)
  | replace source target =>
      match files source with
      | none => (files, none)
      | some content =>
          (Function.update (Function.update files source none) target (some content), some ())

/-- What is left of a call that went wrong: anything in its file, but no half replacement. -/
def damaged (files : Files π β) (left : Option (List β)) (replaced : Bool) :
    Primitive π β → Files π β
  | remove path | create path | append path _ | flush path => Function.update files path left
  | size _ | openFile _ | read _ _ => files
  | replace source target =>
      if replaced then (intended files (.replace source target)).1 else files

/-- The files after the call, and its report unless the process stopped. -/
def perform (primitive : Primitive π β) (files : Files π β) :
    Happening β → Files π β × Option (Option primitive.Report)
  | .succeeds => ((primitive.intended files).1, some (primitive.intended files).2)
  | .fails left replaced => (primitive.damaged files left replaced, some none)
  | .garbles left => (primitive.damaged files left true, some (primitive.intended files).2)
  | .stops left replaced => (primitive.damaged files left replaced, none)

variable {primitive : Primitive π β} {files : Files π β} {path : π}

theorem intended_frame (apart : ¬primitive.Touches path) :
    (primitive.intended files).1 path = files path := by
  cases primitive with
  | remove other | create other => exact Function.update_of_ne apart _ _
  | append other bytes =>
      simp only [intended]
      split
      · rfl
      · exact Function.update_of_ne apart _ _
  | flush | size | openFile | read => rfl
  | replace source target =>
      obtain ⟨here, there⟩ := not_or.mp apart
      simp only [intended]
      split
      · rfl
      · exact (Function.update_of_ne there _ _).trans (Function.update_of_ne here _ _)

theorem damaged_frame {left : Option (List β)} {replaced : Bool}
    (apart : ¬primitive.Touches path) :
    primitive.damaged files left replaced path = files path := by
  cases primitive with
  | remove | create | append | flush => exact Function.update_of_ne apart _ _
  | size | openFile | read => rfl
  | replace source target =>
      simp only [damaged]
      split
      · exact intended_frame apart
      · rfl

/-- No call changes a file that its primitive does not touch. -/
theorem perform_frame (happening : Happening β) (apart : ¬primitive.Touches path) :
    (primitive.perform files happening).1 path = files path := by
  cases happening with
  | succeeds => exact intended_frame apart
  | fails | garbles | stops => exact damaged_frame apart

end Primitive

namespace Program

/-- Runs a program; the process stops when no further happening is given. -/
def execute : Program π β α → List (Happening β) → Files π β → Files π β × Option α
  | done value, _, files => (files, some value)
  | call _ _, [], files => (files, none)
  | call primitive next, happening :: rest, files =>
      match primitive.perform files happening with
      | (after, none) => (after, none)
      | (after, some report) => (next report).execute rest after

/--
Whatever happens, the first assertion holds of the files at the end of the
program, and the second one of its value and the files when it returns.
-/
def Ensures (program : Program π β α) (always : Files π β → Prop)
    (post : α → Files π β → Prop) (files : Files π β) : Prop :=
  ∀ happenings, always (program.execute happenings files).1 ∧
    ∀ value, (program.execute happenings files).2 = some value →
      post value (program.execute happenings files).1

variable {always : Files π β → Prop} {post : α → Files π β → Prop} {files : Files π β}
  {program : Program π β α}

theorem ensures_done {value : α} (now : always files) (returned : post value files) :
    (done value : Program π β α).Ensures always post files := by
  intro happenings
  refine ⟨now, fun other same => ?_⟩
  cases same
  exact returned

/-- A request needs the assertion before it, wherever it is cut short, and for the rest after it. -/
theorem ensures_request {primitive : Primitive π β}
    {next : Option primitive.Report → Program π β α} (now : always files)
    (cut : ∀ happening, always (primitive.perform files happening).1)
    (rest : ∀ happening report, (primitive.perform files happening).2 = some report →
      (next report).Ensures always post (primitive.perform files happening).1) :
    (request primitive >>= next).Ensures always post files := by
  change (call primitive next).Ensures always post files
  intro given
  rcases given with _ | ⟨happening, happenings⟩
  · exact ⟨now, fun _ => nofun⟩
  · have performed := rest happening
    have stopped := cut happening
    rw [execute]
    cases outcome : primitive.perform files happening with
    | mk after report =>
        rw [outcome] at performed stopped
        cases report with
        | none => exact ⟨stopped, fun _ => nofun⟩
        | some report => exact performed report rfl happenings

/-- A request that only looks fails or reports what it finds, and leaves every file. -/
theorem ensures_look {primitive : Primitive π β}
    {next : Option primitive.Report → Program π β α} (looks : ∀ path, ¬primitive.Touches path)
    (now : always files)
    (rest : ∀ report, report = none ∨ report = (primitive.intended files).2 →
      (next report).Ensures always post files) :
    (request primitive >>= next).Ensures always post files := by
  have kept (happening : Happening β) : (primitive.perform files happening).1 = files :=
    funext fun path => primitive.perform_frame happening (looks path)
  refine ensures_request now (fun happening => (kept happening).symm ▸ now) ?_
  intro happening report reported
  rw [kept happening]
  cases happening with
  | succeeds | garbles => exact rest report (.inr (Option.some.inj reported).symm)
  | fails => exact rest report (.inl (Option.some.inj reported).symm)
  | stops => cases reported

/-- The files between two programs are those the second one starts from. -/
theorem ensures_bind {next : α → Program π β γ} {final : γ → Files π β → Prop}
    (first : program.Ensures always post files)
    (rest : ∀ value files, post value files → (next value).Ensures always final files) :
    (program >>= next).Ensures always final files := by
  induction program generalizing files with
  | done value =>
      have returned : post value files := (first []).2 value rfl
      exact rest value files returned
  | call primitive continuation ih =>
      refine ensures_request (first []).1 (fun happening => ?_) fun happening report reported => ?_
      · have stopped := (first [happening]).1
        rw [execute] at stopped
        cases outcome : primitive.perform files happening with
        | mk after report =>
            rw [outcome] at stopped
            cases report with
            | none => exact stopped
            | some report =>
                cases following : continuation report with
                | done value =>
                    simpa [following, execute] using stopped
                | call _ _ => simpa [following, execute] using stopped
      · refine ih report (fun happenings => ?_)
        have continued := first (happening :: happenings)
        have performed : primitive.perform files happening =
            ((primitive.perform files happening).1, some report) := Prod.ext rfl reported
        rw [execute, performed] at continued
        exact continued

/-- The run in which every call succeeds. -/
def complete : Program π β α → Files π β → Files π β × α
  | done value, files => (files, value)
  | call primitive next, files =>
      (next (primitive.intended files).2).complete (primitive.intended files).1

@[simp] theorem complete_done (value : α) (files : Files π β) :
    (done value : Program π β α).complete files = (files, value) := rfl

@[simp] theorem complete_bind (program : Program π β α) (next : α → Program π β γ)
    (files : Files π β) :
    (program >>= next).complete files =
      (next (program.complete files).2).complete (program.complete files).1 := by
  induction program generalizing files with
  | done value => rfl
  | call primitive continuation ih => exact ih _ _

section Requests

variable (path : π) {content : List β}

theorem complete_remove (files : Files π β) :
    (request (.remove path)).complete files = (Function.update files path none, some ()) := rfl

theorem complete_create (files : Files π β) :
    (request (.create path)).complete files = (Function.update files path (some []), some ()) :=
  rfl

theorem complete_append {path : π} (bytes : List β) (present : files path = some content) :
    (request (.append path bytes)).complete files =
      (Function.update files path (some (content ++ bytes)), some ()) := by
  simp only [request, complete, Primitive.intended, present]

theorem complete_flush (files : Files π β) :
    (request (.flush path)).complete files = (files, some ()) := rfl

theorem complete_size (files : Files π β) :
    (request (.size path)).complete files = (files, (files path).map List.length) := rfl

theorem complete_openFile (files : Files π β) :
    (request (.openFile path)).complete files = (files, (files path).map fun _ => ()) := rfl

theorem complete_read {path : π} (present : files path = some content) :
    (request (.read path content.length)).complete files = (files, some content) := by
  simp [request, complete, Primitive.intended, present]

theorem complete_replace {source : π} (target : π)
    (present : files source = some content) :
    (request (.replace source target)).complete files =
      (Function.update (Function.update files source none) target (some content), some ()) := by
  simp only [request, complete, Primitive.intended, present]

end Requests

/-- Every program can run to its end. -/
theorem exists_execute_complete (program : Program π β α) (files : Files π β) :
    ∃ happenings, program.execute happenings files =
      ((program.complete files).1, some (program.complete files).2) := by
  induction program generalizing files with
  | done value => exact ⟨[], rfl⟩
  | call primitive next ih =>
      obtain ⟨happenings, rest⟩ :=
        ih (primitive.intended files).2 (primitive.intended files).1
      exact ⟨.succeeds :: happenings, rest⟩

/-- A program that avoids a file leaves it as it is, wherever it ends. -/
theorem Avoids.execute {path : π} (avoids : program.Avoids path)
    (happenings : List (Happening β)) (files : Files π β) :
    (program.execute happenings files).1 path = files path := by
  induction program generalizing happenings files with
  | done value => rfl
  | call primitive next ih =>
      cases happenings with
      | nil => rfl
      | cons happening rest =>
          have framed : (primitive.perform files happening).1 path = files path :=
            Primitive.perform_frame happening avoids.1
          rw [Program.execute]
          cases outcome : primitive.perform files happening with
          | mk after report =>
              rw [outcome] at framed
              cases report with
              | none => exact framed
              | some report => exact (ih report (avoids.2 report) rest after).trans framed

/-- What is asserted of one file holds throughout a program that avoids it. -/
theorem Avoids.ensures {path : π} (avoids : program.Avoids path) (about : Option (List β) → Prop)
    (holds : about (files path)) :
    program.Ensures (fun files => about (files path)) (fun _ files => about (files path)) files :=
  fun happenings =>
    have kept : about ((program.execute happenings files).1 path) := by
      rw [avoids.execute happenings files]
      exact holds
    ⟨kept, fun _ _ => kept⟩

end Program

end FilePrograms
