/-
# OwnerBuild.Proofs.Watch.Batches -- what a watch run reports depends only on what changed

Of a batch only the set of paths counts that it requests to check: those of changes that are no
deletions and whose suffix is watched for (`Requested`). The callback is called for the batches
that request any path, in order, with that set (`calls_eq`, `changedPaths_isSetOf`). A callback
that leaves the files alone is called in the same world each time, so what is seen of one call
does not depend on any other, and a call that fails is noted and ends nothing
(`respondAll_run`).

For the watch command the callback checks the paths in turn. `watchRun` puts the whole run
together from what single calls let be seen; two streams that request the same sets therefore
give the same run.
-/

import Mathlib.Data.List.Forall2
import OwnerBuild.Cli.Program
import OwnerBuild.Proofs.Watch.InTurn

namespace OwnerBuild.Watch

open Console (Item inStyle)
open Markup (EmojiTable)

variable {extensions : List String} {batch : Batch} {p : Path}

/-! ## What a batch requests -/

/-- That a batch requests to check a path, for suffixes in small letters. -/
def Requested (extensions : List String) (batch : Batch) (p : Path) : Prop :=
  ∃ c ∈ batch, c.kind ≠ .deleted ∧ Path.ofText c.path = p ∧ isWatched extensions p = true

/-- Whether a batch requests to check any path. -/
def requestsAny (extensions : List String) (batch : Batch) : Bool :=
  batch.any fun c => c.kind ≠ .deleted && isWatched extensions (.ofText c.path)

/-- That a list is the set of paths that a batch requests to check, in order. -/
structure IsSetOf (extensions : List String) (batch : Batch) (set : List Path) : Prop where
  nodup : set.Nodup
  sorted : set.Pairwise (Path.le · ·)
  mem_iff : ∀ p, p ∈ set ↔ Requested extensions batch p

theorem requestsAny_iff :
    requestsAny extensions batch = true ↔ ∃ p, Requested extensions batch p := by
  simp only [requestsAny, List.any_eq_true, Bool.and_eq_true, decide_eq_true_eq]
  constructor
  · rintro ⟨c, member, kept, watched⟩
    exact ⟨.ofText c.path, c, member, kept, rfl, watched⟩
  · rintro ⟨_, c, member, kept, rfl, watched⟩
    exact ⟨c, member, kept, watched⟩

theorem mem_changedPaths : p ∈ changedPaths extensions batch ↔ Requested extensions batch p := by
  simp only [changedPaths, Path.mem_sortedSet, List.mem_filter, List.mem_map, decide_eq_true_eq]
  constructor
  · rintro ⟨⟨c, ⟨member, kept⟩, spelled⟩, watched⟩
    exact ⟨c, member, kept, spelled, watched⟩
  · rintro ⟨c, member, kept, spelled, watched⟩
    exact ⟨⟨c, ⟨member, kept⟩, spelled⟩, watched⟩

theorem changedPaths_isSetOf (extensions : List String) (batch : Batch) :
    IsSetOf extensions batch (changedPaths extensions batch) where
  nodup := Path.sortedSet_nodup _
  sorted := Path.sortedSet_sorted _
  mem_iff := fun _ => mem_changedPaths

/-- **The paths that are requested settle the set**, whatever changes request them. -/
theorem IsSetOf.eq {batch' : Batch} {set set' : List Path} (h : IsSetOf extensions batch set)
    (h' : IsSetOf extensions batch' set')
    (same : ∀ p, Requested extensions batch p ↔ Requested extensions batch' p) : set = set' := by
  apply eq_of_sorted (fun _ _ => Path.le_antisymm) h.sorted h'.sorted h.nodup h'.nodup
  intro p
  rw [h.mem_iff, h'.mem_iff, same]

theorem changedPaths_ne_nil_iff :
    changedPaths extensions batch ≠ [] ↔ requestsAny extensions batch = true := by
  rw [requestsAny_iff]
  constructor
  · intro some
    obtain ⟨p, member⟩ := List.exists_mem_of_ne_nil _ some
    exact ⟨p, mem_changedPaths.mp member⟩
  · rintro ⟨p, requested⟩
    exact List.ne_nil_of_mem (mem_changedPaths.mpr requested)

/-- What is seen of a call about some number of paths: the number, the call, and that it failed. -/
def noticed (paths : Nat) (call : Outcome Unit) : List Event :=
  .noted (.changed paths) :: call.events ++
    match call.result with
    | .ok () => []
    | .error _ => [.noted .callbackFailed]

namespace Plan

variable {plan : Plan} {w : World} {calls : Nat} {paths : List Path}

/-! ## Calling back -/

/-- **There is a call for each batch that requests any path**, and for no other. -/
theorem calls_eq (plan : Plan) (batches : List Batch) :
    plan.calls batches = (batches.filter (requestsAny plan.extensions)).map
      (changedPaths plan.extensions) := by
  rw [Plan.calls, List.filter_map]
  congr 1
  apply List.filter_congr
  intro batch _
  rw [Bool.eq_iff_iff, ← changedPaths_ne_nil_iff]
  exact decide_eq_true_iff

/-- What is seen of a call. -/
def response (plan : Plan) (w : World) (calls : Nat) (paths : List Path) : List Event :=
  noticed paths.length ((plan.callback calls paths).run w)

/-- A call has no failure of its own. -/
theorem respond_run (kept : ((plan.callback calls paths).run w).files = w.view.files) :
    plan.respond calls paths w = ⟨.ok (), w.view.files, plan.response w calls paths⟩ := by
  rw [respond, Action.bind_undisturbed (Action.note_run _), response, noticed]
  cases came : (plan.callback calls paths).run w with
  | mk result files events =>
    obtain rfl : files = w.view.files := by rwa [came] at kept
    have tried : (plan.callback calls paths).attempt w = ⟨.ok result, w.view.files, events⟩ := by
      show (⟨.ok ((plan.callback calls paths).run w).result,
        ((plan.callback calls paths).run w).files,
        ((plan.callback calls paths).run w).events⟩ : Outcome _) = _
      rw [came]
    rw [Action.bind_undisturbed tried]
    cases result with
    | ok _ => rfl
    | error e => rfl

/-- **Each call is as if it were the only one**, whether others fail or not. -/
theorem respondAll_run
    (kept : ∀ calls paths, ((plan.callback calls paths).run w).files = w.view.files)
    (calls : Nat) (sets : List (List Path)) :
    plan.respondAll calls sets w = ⟨.ok (), w.view.files,
      (sets.zipIdx calls).flatMap fun (paths, before) => plan.response w before paths⟩ := by
  induction sets generalizing calls with
  | nil => rfl
  | cons paths rest ih =>
    rw [Plan.respondAll, Action.bind_undisturbed (respond_run (kept calls paths)), ih]
    rfl

end Plan

/-! ## A whole stream -/

/-- What is seen when a watcher is started and its task begins. -/
def opening (directory : Path) : List Event :=
  [.noted (.watcherStarted directory), .watching directory]

/-- What is seen when a stream ends: the watcher is stopped, unless the stream failed or was
interrupted. -/
def closing (directory : Path) : StreamEnd → List Event
  | .block | .stop => [.noted (.watcherStopped directory)]
  | .fail | .interrupt => []

/-- How the watch of a stream ends. -/
def endResult : StreamEnd → Except Failure WatchEnd
  | .block | .stop => .ok .stopped
  | .fail => .error .changeStream
  | .interrupt => .ok .interrupted

/-- A fresh watcher makes its first task. -/
theorem start_create (plan : Plan) (batches : List Batch) (w : World) :
    (Watcher.create batches).start plan w = ⟨.ok ⟨some ⟨0, .pending⟩, 1, batches, []⟩,
      w.view.files, [.noted (.watcherStarted plan.directory)]⟩ := rfl

/-- A task reads all batches and calls back for them. -/
theorem proceed_pending {plan : Plan} {w : World}
    (kept : ∀ calls paths, ((plan.callback calls paths).run w).files = w.view.files)
    (number made : Nat) (unread : List Batch) (called : List (List Path)) (ending : StreamEnd) :
    Watcher.proceed ⟨some ⟨number, .pending⟩, made, unread, called⟩ plan ending w =
      ⟨.ok ⟨some ⟨number, Watcher.progressAt ending⟩, made, [], called ++ plan.calls unread⟩,
        w.view.files, .watching plan.directory ::
          ((plan.calls unread).zipIdx called.length).flatMap fun (paths, before) =>
            plan.response w before paths⟩ := by
  have emitted : Action.emit (.watching plan.directory) w =
      ⟨.ok (), w.view.files, [.watching plan.directory]⟩ := rfl
  rw [Watcher.proceed]
  dsimp only
  rw [Action.bind_undisturbed emitted, Action.bind_pure_run (Plan.respondAll_run kept _ _)]
  rfl

/-- **A stream is watched in three parts**: a watcher is started, it calls back, it is stopped. -/
theorem watchStream_run {plan : Plan} {w : World}
    (kept : ∀ calls paths, ((plan.callback calls paths).run w).files = w.view.files)
    (stream : Stream) :
    watchStream plan stream w = ⟨endResult stream.ending, w.view.files, opening plan.directory ++
      ((plan.calls stream.batches).zipIdx.flatMap fun (paths, before) =>
        plan.response w before paths) ++ closing plan.directory stream.ending⟩ := by
  have proceeded := proceed_pending kept 0 1 stream.batches [] stream.ending
  rw [watchStream, Action.bind_undisturbed (start_create plan stream.batches w), Watcher.wait,
    Action.bind_undisturbed (Action.bind_pure_run proceeded)]
  cases stream.ending <;> rfl

/-! ## The watch command -/

section Command

variable {v : View} {answer : Start → Answer}

/-- The suffixes that a registry watches for, in small letters. -/
def watchedSuffixes (r : Registry) : List String := r.extensions.map Text.lowerString

/-- The sets of paths that some batches request, those that request none left out. -/
def requestedSets (r : Registry) (batches : List Batch) : List (List Path) :=
  (batches.filter (requestsAny (watchedSuffixes r))).map (changedPaths (watchedSuffixes r))

theorem forall₂_requestedSets (r : Registry) (batches : List Batch) :
    List.Forall₂ (IsSetOf (watchedSuffixes r))
      (batches.filter (requestsAny (watchedSuffixes r))) (requestedSets r batches) := by
  rw [requestedSets, List.forall₂_map_right_iff, List.forall₂_same]
  exact fun batch _ => changedPaths_isSetOf _ batch

theorem requestedSets_eq {r : Registry} {batches batches' : List Batch}
    (same : List.Forall₂ (fun batch batch' => ∀ p, Requested (watchedSuffixes r) batch p ↔
        Requested (watchedSuffixes r) batch' p)
      (batches.filter (requestsAny (watchedSuffixes r)))
      (batches'.filter (requestsAny (watchedSuffixes r)))) :
    requestedSets r batches = requestedSets r batches' := by
  rw [requestedSets, requestedSets, ← congrFun₂ List.forall₂_eq_eq_eq,
    List.forall₂_map_left_iff, List.forall₂_map_right_iff]
  exact same.imp fun batch batch' same =>
    (changedPaths_isSetOf _ batch).eq (changedPaths_isSetOf _ batch') same

variable [EmojiTable]

/-- What is seen of a batch that requests a set of paths. -/
def turn (r : Registry) (w : World) (set : List Path) : List Event :=
  noticed set.length ((checkChanged r set).run w)

/-- The line that watching has begun. -/
def watchingLine (directory : Path) : Item :=
  .markup (inStyle "green" ("Watching " ++ Markup.escapeString directory.text) ++
    " (Ctrl+C to stop)")

/-- What is seen when the watch command ends. -/
def lastEvents (directory : Path) (ending : StreamEnd) : List Event :=
  closing directory ending ++ if ending = .interrupt then [.printed (.markup "Stopped.")] else []

/-- What the watch command does about changes. -/
def watchPlan (r : Registry) (directory : Path) : Plan :=
  .create directory r.extensions fun _ paths => checkChanged r paths

/-- What the watch command makes of the end of a watch. -/
def afterWatch : WatchEnd → Action Nat
  | .stopped => return 0
  | .interrupted => do
    Action.print (.markup "Stopped.")
    return 0

theorem watch_eq (r : Registry) (directory : Path) (stream : Stream) :
    Cli.watch r directory stream = Action.print (watchingLine directory) >>= fun _ =>
      watchStream (watchPlan r directory) stream >>= afterWatch := by
  have same : ∀ ended : WatchEnd, (match ended with
      | .stopped => return 0
      | .interrupted => do
        Action.print (.markup "Stopped.")
        return 0 : Action Nat) = afterWatch ended := by
    intro ended
    cases ended <;> rfl
  rw [Cli.watch, ← funext same]
  rfl

/-- **A watch is a beginning, a turn for each batch that requests any path, and an end.** -/
theorem watch_run (r : Registry) (directory : Path) (stream : Stream) :
    Cli.watch r directory stream (.answering v answer) =
      ⟨(endResult stream.ending).map fun _ => 0, v.files,
        .printed (watchingLine directory) :: opening directory ++
          (requestedSets r stream.batches).flatMap (turn r (.answering v answer)) ++
          lastEvents directory stream.ending⟩ := by
  have kept : ∀ paths, ((checkChanged r paths).run (.answering v answer)).files = v.files :=
    fun paths => congrArg Outcome.files (checkChanged_run v answer r paths)
  have watched : watchStream (watchPlan r directory) stream (.answering v answer) = _ :=
    watchStream_run (fun _ paths => kept paths) stream
  have turns : ((watchPlan r directory).calls stream.batches).zipIdx.flatMap (fun (set, before) =>
      (watchPlan r directory).response (.answering v answer) before set) =
      (requestedSets r stream.batches).flatMap (turn r (.answering v answer)) := by
    rw [Plan.calls_eq]
    show ((requestedSets r stream.batches).zipIdx.flatMap fun s => turn r _ s.1) = _
    rw [← List.flatMap_map, List.zipIdx_map_fst]
  rw [turns] at watched
  have ended : (watchStream (watchPlan r directory) stream >>= afterWatch) (.answering v answer) =
      ⟨(endResult stream.ending).map fun _ => 0, v.files, opening directory ++
        (requestedSets r stream.batches).flatMap (turn r (.answering v answer)) ++
          lastEvents directory stream.ending⟩ := by
    rw [lastEvents, ← List.append_assoc]
    cases ending : stream.ending with
    | block | stop | interrupt =>
      rw [ending] at watched
      rw [Action.bind_undisturbed watched]
      rfl
    | fail =>
      rw [ending] at watched
      rw [Action.bind_failed watched]
      rw [if_neg (by decide), List.append_nil]
      rfl
  rw [watch_eq, Action.bind_undisturbed (Action.print_run _), ended]
  rfl

/-- What a watch reports of a stream of changes. -/
structure WatchRun (r : Registry) (w : World) (directory : Path) (stream : Stream)
    (o : Outcome Nat) : Prop where
  /-- Between its beginning and its end there is a turn for each batch that requests any path, in
  the order of the batches, with the set of the paths it requests. A turn is what is seen of
  the call for its set alone. -/
  turns : ∃ sets, List.Forall₂ (IsSetOf (watchedSuffixes r))
      (stream.batches.filter (requestsAny (watchedSuffixes r))) sets ∧
    o.events = .printed (watchingLine directory) :: opening directory ++
      sets.flatMap (turn r w) ++ lastEvents directory stream.ending
  /-- A turn checks each path of its set at most once. -/
  once : ∀ batch set, IsSetOf (watchedSuffixes r) batch set → set.Nodup ∧
    ((checkChanged r set).run w).events = (set.takeWhile (canLookUp r w.view)).flatMap fun p =>
      ((checkChanged r [p]).run w).events
  /-- Batches that request the same paths are reported in the same way, but for the end. -/
  settled : ∀ stream' : Stream,
    List.Forall₂ (fun batch batch' => ∀ p, Requested (watchedSuffixes r) batch p ↔
        Requested (watchedSuffixes r) batch' p)
      (stream.batches.filter (requestsAny (watchedSuffixes r)))
      (stream'.batches.filter (requestsAny (watchedSuffixes r))) →
    ((Cli.watch r directory stream').run w).starts = o.starts ∧
      (stream'.ending = stream.ending → (Cli.watch r directory stream').run w = o)

/-- Programs are only started in turns. -/
theorem watch_starts (r : Registry) (directory : Path) (stream : Stream) :
    ((Cli.watch r directory stream).run (.answering v answer)).starts =
      ((requestedSets r stream.batches).flatMap (turn r (.answering v answer))).filterMap
        Event.start? := by
  have last : (lastEvents directory stream.ending).filterMap Event.start? = [] := by
    cases stream.ending <;> rfl
  rw [Action.run, watch_run, Outcome.starts]
  simp only [List.filterMap_append, last, List.append_nil]
  rfl

/-- **What a watch reports depends only on what changed.** In a world whose programs answer by
command and directory alone. -/
theorem watchRun (r : Registry) (v : View) (answer : Start → Answer) (directory : Path)
    (stream : Stream) :
    WatchRun r (.answering v answer) directory stream
      ((Cli.watch r directory stream).run (.answering v answer)) where
  turns := by
    refine ⟨requestedSets r stream.batches, forall₂_requestedSets r stream.batches, ?_⟩
    exact congrArg Outcome.events (watch_run r directory stream)
  once := by
    intro batch set isSet
    have events := congrArg Outcome.events (checkChanged_run v answer r set)
    rw [Path.sortedSet_eq_self isSet.sorted isSet.nodup] at events
    exact ⟨isSet.nodup, events⟩
  settled := by
    intro stream' same
    have sets := requestedSets_eq same
    constructor
    · rw [watch_starts, watch_starts, sets]
    · intro ending
      rw [Action.run, Action.run, watch_run, watch_run, sets, ending]

end Command

end OwnerBuild.Watch
