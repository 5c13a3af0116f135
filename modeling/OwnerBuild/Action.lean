/-
# OwnerBuild.Action -- what a program does, as a value

An action is a function from the world to an outcome. The world is a file tree
seen from a working directory, and a launcher that answers starts. The outcome is
a result or a failure, the file tree that is left, and the events on the way:
what was started, noted, printed, watched and served, in order, also when the
action failed. Nothing else can happen in an action, so what two actions do can
be compared as lists of events.

Sequencing runs the second action in the world that the first one left and puts
its events behind; a failure skips the second action and keeps the events.
-/

import OwnerBuild.Console
import OwnerBuild.Failure
import OwnerBuild.Log
import OwnerBuild.Process.Basic

namespace OwnerBuild

/-- What actions find. -/
structure World where
  view : View
  launcher : Launcher

/-- What an action lets the outside see. -/
inductive Event where
  | started (s : Start)
  | noted (n : Log.Note)
  | printed (i : Console.Item)
  | logLevel (l : Log.Level)
  | watching (directory : Path)
  | served (name transport : String)
  deriving DecidableEq

/-- What comes of an action. -/
structure Outcome (α : Type) where
  result : Except Failure α
  files : FileTree
  events : List Event

/-- Something to be done. -/
def Action (α : Type) : Type := World → Outcome α

/-- A world with another file tree. -/
def World.withFiles (w : World) (files : FileTree) : World :=
  { w with view := { w.view with files } }

namespace Action

/-! ## Building blocks -/

/-- Runs an action. -/
def run {α : Type} (a : Action α) (w : World) : Outcome α := a w

/-- Does nothing and has a result. -/
protected def pure {α : Type} (x : α) : Action α := fun w => ⟨.ok x, w.view.files, []⟩

/-- Does one thing and then, unless that failed, another one. -/
protected def bind {α β : Type} (a : Action α) (f : α → Action β) : Action β := fun w =>
  let first := a w
  match first.result with
  | .error e => ⟨.error e, first.files, first.events⟩
  | .ok x =>
    let second := f x (w.withFiles first.files)
    ⟨second.result, second.files, first.events ++ second.events⟩

instance : Monad Action where
  pure := Action.pure
  bind := Action.bind

/-- Stops with a failure. -/
def fail {α : Type} (e : Failure) : Action α := fun w => ⟨.error e, w.view.files, []⟩

/-- Lets an event happen. -/
def emit (e : Event) : Action Unit := fun w => ⟨.ok (), w.view.files, [e]⟩

/-- Makes a note. -/
def note (n : Log.Note) : Action Unit := emit (.noted n)

/-- Prints an item. -/
def print (i : Console.Item) : Action Unit := emit (.printed i)

/-- Has a result that was found out before. -/
def ofExcept {α : Type} : Except Failure α → Action α
  | .ok x => .pure x
  | .error e => fail e

/-- Asks the file tree. -/
def look {α : Type} (question : View → Except LookupError α) : Action α := fun w =>
  ⟨(question w.view).mapError .lookup, w.view.files, []⟩

/-- Starts a program. What a launcher does not take is a command with a NUL in it. -/
def start (s : Start) : Action Answer := fun w =>
  match w.launcher w.view s with
  | some (answer, files) => ⟨.ok answer, files, [.started s]⟩
  | none => ⟨.error .nulInCommand, w.view.files, [.started s]⟩

/-- Goes on with what came of an action, failed or not. -/
def attempt {α : Type} (a : Action α) : Action (Except Failure α) := fun w =>
  let tried := a w
  ⟨.ok tried.result, tried.files, tried.events⟩

/-- Goes on with the executable and the reason if a program could not be run; other
failures stay failures. -/
def orLaunchFailure {α : Type} (a : Action α) : Action (Except Failure α) := do
  match ← a.attempt with
  | .error (.launch executable reason) => return .error (.launch executable reason)
  | .error e => fail e
  | .ok x => return .ok x

/-- Does something for each item of a list, in order. -/
def forEach {α : Type} (f : α → Action Unit) : List α → Action Unit
  | [] => .pure ()
  | x :: rest => (f x).bind fun _ => forEach f rest

/-! ## Laws -/

@[simp] theorem withFiles_self (w : World) : w.withFiles w.view.files = w := rfl

@[simp] theorem withFiles_withFiles (w : World) (f g : FileTree) :
    (w.withFiles f).withFiles g = w.withFiles g := rfl

@[simp] theorem files_withFiles (w : World) (f : FileTree) :
    (w.withFiles f).view.files = f := rfl

@[simp] theorem launcher_withFiles (w : World) (f : FileTree) :
    (w.withFiles f).launcher = w.launcher := rfl

/-- What is done after nothing is all that is done. -/
@[simp] theorem pure_bind {α β : Type} (x : α) (f : α → Action β) : Action.pure x >>= f = f x := by
  funext w
  simp [Bind.bind, Action.bind, Action.pure]

/-- Nothing done after an action adds nothing to it. -/
@[simp] theorem bind_pure {α : Type} (a : Action α) : a >>= Action.pure = a := by
  funext w
  simp only [Bind.bind, Action.bind, Action.pure]
  cases h : a w with
  | mk result files events => cases result <;> simp

/-- How actions are grouped makes no difference. -/
theorem bind_assoc {α β γ : Type} (a : Action α) (f : α → Action β) (g : β → Action γ) :
    a >>= f >>= g = a >>= fun x => f x >>= g := by
  funext w
  simp only [Bind.bind, Action.bind]
  cases h : a w with
  | mk result files events =>
    cases result with
    | error e => simp
    | ok x =>
      simp only
      cases h' : f x (w.withFiles files) with
      | mk result' files' events' => cases result' <;> simp

theorem bind_apply_ok {α β : Type} {a : Action α} {f : α → Action β} {w : World} {x : α}
    (h : (a w).result = .ok x) :
    (a >>= f) w =
      ⟨(f x (w.withFiles (a w).files)).result, (f x (w.withFiles (a w).files)).files,
        (a w).events ++ (f x (w.withFiles (a w).files)).events⟩ := by
  show Action.bind a f w = _
  simp only [Action.bind, h]

theorem bind_apply_error {α β : Type} {a : Action α} {f : α → Action β} {w : World} {e : Failure}
    (h : (a w).result = .error e) :
    (a >>= f) w = ⟨.error e, (a w).files, (a w).events⟩ := by
  show Action.bind a f w = _
  simp only [Action.bind, h]

end Action

end OwnerBuild
