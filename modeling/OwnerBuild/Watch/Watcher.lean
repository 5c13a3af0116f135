/-
# OwnerBuild.Watch.Watcher -- watching a directory

A watcher reads change batches in a task of its own and calls back for each batch
that asks for a check. The callback is finished before the next batch is read,
and one that fails is noted and changes nothing else.

The watcher remembers its task until it is stopped. A task that has been made but
has not run yet is ended by a stop without having read anything; one that waits
for further changes is ended by it too; one whose stream of changes failed makes
`stop` and `wait` fail, and is remembered for good. The batches themselves belong
to the stream: what one task has read no later one reads again.

Time does not pass here. A callback is one step, with nothing in between, and a task
takes all batches of its stream in one go. A stream that would block has come to its
last batch: a task that has read it waits for good, and a watch of the whole stream,
which would go on for as long, is taken to be stopped there.
-/

import OwnerBuild.Watch.Changes

namespace OwnerBuild.Watch

/-! ## Streams of changes -/

/-- What comes behind the last batch of a stream: nothing for as long as anyone waits,
an end, a failure, or an interruption. -/
inductive StreamEnd where
  | block
  | stop
  | fail
  | interrupt
  deriving DecidableEq, Repr

/-- The batches that are still to come, and what comes behind them. -/
structure Stream where
  batches : List Batch
  ending : StreamEnd

/-! ## Watching -/

/-- What is watched, and what is done about it. The callback is given the number
of calls before it and the changed paths. -/
structure Plan where
  directory : Path
  extensions : List String
  callback : Nat → List Path → Action Unit

/-- A plan for some suffixes, in letters of either case. -/
def Plan.create (directory : Path) (extensions : List String)
    (callback : Nat → List Path → Action Unit) : Plan :=
  ⟨directory, extensions.map Text.lowerString, callback⟩

/-- Calls back for a set of paths. -/
def Plan.respond (plan : Plan) (calls : Nat) (paths : List Path) : Action Unit := do
  Action.note (.changed paths.length)
  match ← (plan.callback calls paths).attempt with
  | .ok () => return
  | .error _ => Action.note .callbackFailed

/-- The sets of paths that the batches of a stream ask to check, empty ones left
out. -/
def Plan.calls (plan : Plan) (batches : List Batch) : List (List Path) :=
  (batches.map (changedPaths plan.extensions)).filter (· ≠ [])

/-- Calls back for some sets of paths, in order. -/
def Plan.respondAll (plan : Plan) : (calls : Nat) → List (List Path) → Action Unit
  | _, [] => return
  | calls, paths :: rest => do
    plan.respond calls paths
    plan.respondAll (calls + 1) rest

/-! ## The life of a watcher -/

/-- How far a task has come. -/
inductive Progress where
  | pending
  | waiting
  | ended
  | failed
  | interrupted
  deriving DecidableEq, Repr

/-- A task, told apart from others by its number. -/
structure Task where
  number : Nat
  progress : Progress
  deriving DecidableEq, Repr

/-- A watcher: its task if it has one, how many it has made, the batches that no
task has read, and the sets of paths that it has called back for. -/
structure Watcher where
  task : Option Task
  made : Nat
  unread : List Batch
  called : List (List Path)

namespace Watcher

/-- A watcher that has not been started. -/
def create (batches : List Batch) : Watcher := ⟨none, 0, batches, []⟩

/-- Where a task is when it has read all batches. -/
def progressAt : StreamEnd → Progress
  | .block => .waiting
  | .stop => .ended
  | .fail => .failed
  | .interrupt => .interrupted

/-- Makes a task, unless there is one. -/
def start (s : Watcher) (plan : Plan) : Action Watcher :=
  match s.task with
  | some _ => return s
  | none => do
    Action.note (.watcherStarted plan.directory)
    return { s with task := some ⟨s.made, .pending⟩, made := s.made + 1 }

/-- Lets a task that has not run yet run until it waits or is over. -/
def proceed (s : Watcher) (plan : Plan) (ending : StreamEnd) : Action Watcher :=
  match s.task with
  | some ⟨number, .pending⟩ => do
    Action.emit (.watching plan.directory)
    let sets := plan.calls s.unread
    plan.respondAll s.called.length sets
    return { s with
      task := some ⟨number, progressAt ending⟩, unread := [], called := s.called ++ sets }
  | _ => return s

/-- Waits for the task; whether its stream failed. -/
def wait (s : Watcher) (plan : Plan) (ending : StreamEnd) : Action (Watcher × Bool) := do
  let s ← s.proceed plan ending
  return (s, s.task.any (·.progress = .failed))

/-- Ends the task and forgets it, unless its stream failed; whether it did. -/
def stop (s : Watcher) (plan : Plan) : Action (Watcher × Bool) :=
  match s.task with
  | none => return (s, false)
  | some ⟨_, .failed⟩ => return (s, true)
  | some _ => do
    Action.note (.watcherStopped plan.directory)
    return ({ s with task := none }, false)

end Watcher

/-! ## Watching until the stream ends -/

/-- How a watch of a whole stream ended. -/
inductive WatchEnd where
  | stopped
  | interrupted
  deriving DecidableEq, Repr

/-- Watches a whole stream with a fresh watcher, and stops it in the end, also where
the stream blocks. A stream that fails makes it fail; an interruption leaves the
watcher as it is. -/
def watchStream (plan : Plan) (stream : Stream) : Action WatchEnd := do
  let s ← (Watcher.create stream.batches).start plan
  let (s, waitFailed) ← s.wait plan stream.ending
  if s.task.any (·.progress = .interrupted) then return .interrupted
  let (_, stopFailed) ← s.stop plan
  if waitFailed || stopFailed then Action.fail .changeStream
  return .stopped

end OwnerBuild.Watch
