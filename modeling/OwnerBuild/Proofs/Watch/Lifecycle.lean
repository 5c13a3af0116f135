/-
# OwnerBuild.Proofs.Watch.Lifecycle -- what a watcher remembers

A watcher is started, stopped and waited for in any order, and between these calls its task has its
turns: it reads what has changed and then waits for more, is over, or fails with its stream
(`Moment`). Whatever the callbacks do, each moment passes, and there is at most one watch: a task is
made only where none is recorded, and the recorded one is forgotten only by a stop that ends it
(`Linked.balanced`, `lifecycle`).

A stop that comes back leaves no task recorded. One that finds a failed task raises what the stream
raised and forgets nothing, so the watcher is lost: no later start begins a watch
(`Linked.lost`, `stop_behind_failure`).
-/

import OwnerBuild.Proofs.Watch.Batches

namespace OwnerBuild.Watch

variable {plan : Plan} {w : World} {s : Watcher}

/-! ## Moments -/

/-- What comes behind the changes that are read in a turn, an interruption of the program aside:
that the task waits for more, is over, or fails. -/
abbrev Ending := { ending : StreamEnd // ending ≠ .interrupt }

/-- What can happen to a watcher: one of its calls, some changes, or a turn of its task. A wait
lasts until the task has had its turn. -/
inductive Moment where
  | start
  | stop
  | wait (ending : Ending)
  | change (batches : List Batch)
  | turn (ending : Ending)

/-- Whether a task has come to its end. -/
def Task.isOver (t : Task) : Bool :=
  match t.progress with
  | .pending | .waiting => false
  | .ended | .failed | .interrupted => true

/-- What a turn makes of a task. -/
def Task.turned (ending : StreamEnd) (t : Task) : Task :=
  if t.isOver then t else { t with progress := Watcher.progressAt ending }

namespace Watcher

/-- Lets a task that waits read on. -/
def resume (s : Watcher) (plan : Plan) (ending : StreamEnd) : Action Watcher :=
  match s.task with
  | some ⟨number, .waiting⟩ => do
    let sets := plan.calls s.unread
    plan.respondAll s.called.length sets
    return { s with
      task := some ⟨number, progressAt ending⟩, unread := [], called := s.called ++ sets }
  | _ => return s

end Watcher

/-! ## A turn -/

namespace Plan

/-- A call has no failure of its own. -/
theorem respond_result (plan : Plan) (calls : Nat) (paths : List Path) (w : World) :
    (plan.respond calls paths w).result = .ok () := by
  refine Action.bind_result_eq_ok_iff.mpr ⟨(), rfl, ?_⟩
  refine Action.bind_result_eq_ok_iff.mpr ⟨_, rfl, ?_⟩
  -- whatever came of the callback, what is left to do does not fail
  generalize ((plan.callback calls paths) _).result = came
  cases came <;> rfl

theorem respondAll_result (plan : Plan) (calls : Nat) (sets : List (List Path)) (w : World) :
    (plan.respondAll calls sets w).result = .ok () := by
  induction sets generalizing calls w with
  | nil => rfl
  | cons paths rest ih =>
    exact Action.bind_result_eq_ok_iff.mpr ⟨(), respond_result plan calls paths w, ih _ _⟩

/-- So calling back for some sets is always done in the end. -/
theorem respondAll_done (plan : Plan) (calls : Nat) (sets : List (List Path)) (w : World) :
    ∃ files events, plan.respondAll calls sets w = ⟨.ok (), files, events⟩ :=
  ⟨_, _, by rw [← respondAll_result plan calls sets w]⟩

end Plan

/-- What a turn does: it takes a task on that is not over, whatever the callbacks do, and such a
task begins to watch if it has not run yet. -/
structure Turned (plan : Plan) (s : Watcher) (ending : StreamEnd) (s' : Watcher)
    (events : List Event) : Prop where
  made : s'.made = s.made
  task : s'.task = s.task.map (·.turned ending)
  watches : ∀ number, s.task = some ⟨number, .pending⟩ →
    ∃ called, events = .watching plan.directory :: called
  idle : (∀ t, s.task = some t → t.isOver = true) → s' = s ∧ events = []

namespace Watcher

/-- A task that is over stays as it is. -/
theorem turn_over (isOver : ∀ t, s.task = some t → t.isOver = true) (ending : StreamEnd) :
    (s.resume plan ending >>= (·.proceed plan ending)) w = ⟨.ok s, w.view.files, []⟩ := by
  obtain ⟨task, made, unread, called⟩ := s
  cases task with
  | none => rfl
  | some t =>
    obtain ⟨number, progress⟩ := t
    have finished : Task.isOver ⟨number, progress⟩ = true := isOver _ rfl
    cases progress with
    | pending | waiting => cases finished
    | ended | failed | interrupted => rfl

/-- **A turn comes to its end**, whatever the callbacks do. -/
theorem turn_run (plan : Plan) (s : Watcher) (ending : StreamEnd) (w : World) :
    ∃ s' files events,
      (s.resume plan ending >>= (·.proceed plan ending)) w = ⟨.ok s', files, events⟩ ∧
        Turned plan s ending s' events := by
  -- without a task, or with one that is over, there is nothing to take on
  by_cases isOver : ∀ t, s.task = some t → t.isOver = true
  · refine ⟨s, _, _, turn_over isOver ending, rfl, ?_, ?_, fun _ => ⟨rfl, rfl⟩⟩
    · cases recorded : s.task with
      | none => rfl
      | some t => rw [Option.map_some, Task.turned, if_pos (isOver t recorded)]
    · intro number pending
      cases isOver _ pending
  · obtain ⟨task, made, unread, called⟩ := s
    push Not at isOver
    obtain ⟨⟨number, progress⟩, rfl, live⟩ := isOver
    obtain ⟨files, events, responded⟩ := plan.respondAll_done called.length (plan.calls unread) w
    cases progress with
    | pending =>
      have rested : resume ⟨some ⟨number, .pending⟩, made, unread, called⟩ plan ending w =
          ⟨.ok ⟨some ⟨number, .pending⟩, made, unread, called⟩, w.view.files, []⟩ := rfl
      have emitted : Action.emit (.watching plan.directory) w =
          ⟨.ok (), w.view.files, [.watching plan.directory]⟩ := rfl
      refine ⟨⟨some ⟨number, progressAt ending⟩, made, [], called ++ plan.calls unread⟩, files,
        .watching plan.directory :: events, ?_, rfl, rfl, fun _ _ => ⟨events, rfl⟩,
        fun isOver => absurd (isOver _ rfl) live⟩
      -- the first thing that is seen is the watch, before any callback
      rw [Action.bind_undisturbed rested, proceed]
      dsimp only
      rw [Action.bind_undisturbed emitted, Action.bind_pure_run responded]
      rfl
    | waiting =>
      refine ⟨⟨some ⟨number, progressAt ending⟩, made, [], called ++ plan.calls unread⟩, files,
        events, ?_, rfl, rfl, ?_, fun isOver => absurd (isOver _ rfl) live⟩
      · apply Action.bind_return
        · exact Action.bind_return responded rfl
        · cases ending <;> rfl
      · rintro _ ⟨⟩
    | ended | failed | interrupted => exact absurd rfl live

end Watcher

/-! ## A moment -/

namespace Watcher

/-- Lets one moment pass; whether it raises what the stream of changes raised. -/
def pass (s : Watcher) (plan : Plan) : Moment → Action (Watcher × Bool)
  | .start => do return (← s.start plan, false)
  | .stop => s.stop plan
  | .wait ending => do (← s.resume plan ending).wait plan ending
  | .change batches => return ({ s with unread := s.unread ++ batches }, false)
  | .turn ending => do return (← (← s.resume plan ending).proceed plan ending, false)

/-- Whether the stream of the recorded task has failed. -/
def hasFailed (s : Watcher) : Bool := s.task.any (·.progress = .failed)

/-- How many tasks are recorded. -/
def recorded (s : Watcher) : Nat := s.task.toList.length

/-- That the recorded task is the last one that was made. -/
def Newest (s : Watcher) : Prop := ∀ t, s.task = some t → t.number + 1 = s.made

theorem hasFailed_iff : s.hasFailed = true ↔ ∃ number, s.task = some ⟨number, .failed⟩ := by
  cases isTask : s.task with
  | none => simp [hasFailed, isTask]
  | some t =>
    obtain ⟨number, progress⟩ := t
    simp [hasFailed, isTask]

end Watcher

/-- What a moment does to a watcher: whether it raises, what it leaves and what is seen of it. -/
inductive Passes (plan : Plan) (s : Watcher) : Moment → Bool → Watcher → List Event → Prop where
  | begin (idle : s.task = none) :
    Passes plan s .start false { s with task := some ⟨s.made, .pending⟩, made := s.made + 1 }
      [.noted (.watcherStarted plan.directory)]
  | again (recorded : s.task ≠ none) : Passes plan s .start false s []
  | unneeded (idle : s.task = none) : Passes plan s .stop false s []
  | refused (failed : s.hasFailed = true) : Passes plan s .stop true s []
  | stop (recorded : s.task ≠ none) (well : s.hasFailed = false) :
    Passes plan s .stop false { s with task := none } [.noted (.watcherStopped plan.directory)]
  | change {batches : List Batch} :
    Passes plan s (.change batches) false { s with unread := s.unread ++ batches } []
  | turn {ending : Ending} {s' : Watcher} {events : List Event}
    (turned : Turned plan s ending s' events) : Passes plan s (.turn ending) false s' events
  | wait {ending : Ending} {s' : Watcher} {events : List Event}
    (turned : Turned plan s ending s' events) :
    Passes plan s (.wait ending) s'.hasFailed s' events

/-- **Each moment passes**, whatever the callbacks do. -/
theorem pass_run (plan : Plan) (s : Watcher) (moment : Moment) (w : World) :
    ∃ s' raised files events, s.pass plan moment w = ⟨.ok (s', raised), files, events⟩ ∧
      Passes plan s moment raised s' events := by
  cases moment with
  | start =>
    obtain ⟨task, made, unread, called⟩ := s
    cases task with
    | none => exact ⟨_, _, _, _, rfl, .begin rfl⟩
    | some t => exact ⟨_, _, _, _, rfl, .again nofun⟩
  | stop =>
    obtain ⟨task, made, unread, called⟩ := s
    cases task with
    | none => exact ⟨_, _, _, _, rfl, .unneeded rfl⟩
    | some t =>
      obtain ⟨number, progress⟩ := t
      cases progress with
      | failed => exact ⟨_, _, _, _, rfl, .refused rfl⟩
      | pending | waiting | ended | interrupted => exact ⟨_, _, _, _, rfl, .stop nofun rfl⟩
  | change batches => exact ⟨_, _, _, _, rfl, .change⟩
  | turn ending =>
    obtain ⟨s', files, events, ran, turned⟩ := Watcher.turn_run plan s ending w
    refine ⟨s', false, files, events, ?_, .turn turned⟩
    show ((s.resume plan ending >>= fun s => s.proceed plan ending >>= fun s =>
      pure (s, false)) w) = _
    rw [← Action.bind_assoc]
    exact Action.bind_return ran rfl
  | wait ending =>
    obtain ⟨s', files, events, ran, turned⟩ := Watcher.turn_run plan s ending w
    refine ⟨s', s'.hasFailed, files, events, ?_, .wait turned⟩
    show ((s.resume plan ending >>= fun s => s.proceed plan ending >>= fun s =>
      pure (s, s.hasFailed)) w) = _
    rw [← Action.bind_assoc]
    exact Action.bind_return ran rfl

/-! ### What a moment can change -/

namespace Passes

variable {moment : Moment} {ending : Ending} {raised : Bool} {s' : Watcher} {events : List Event}

/-- **Only a start makes a task**, and only where none is recorded. -/
theorem made_lt_iff (passes : Passes plan s moment raised s' events) :
    s.made < s'.made ↔ moment = .start ∧ s.task = none := by
  cases passes with
  | begin idle => simp [idle]
  | again recorded => simp [recorded]
  | turn turned | wait turned => simp [turned.made]
  | _ => simp

/-- **Only a stop forgets a task**, and only one that has not failed. -/
theorem forgets_iff (passes : Passes plan s moment raised s' events) :
    (s.task ≠ none ∧ s'.task = none) ↔
      moment = .stop ∧ s.task ≠ none ∧ s.hasFailed = false := by
  cases passes with
  | refused failed => simp [failed]
  | stop recorded well => simp [recorded, well]
  | turn turned | wait turned => simp [turned.task]
  | unneeded idle => simp [idle]
  | _ => simp

/-- A task that is made finds none, and one that is forgotten leaves none. -/
theorem balanced (passes : Passes plan s moment raised s' events) :
    s.recorded + (decide (s.made < s'.made)).toNat =
      (s.task.isSome && s'.task.isNone).toNat + s'.recorded := by
  unfold Watcher.recorded
  cases passes with
  | begin idle => simp [idle]
  | stop recorded well =>
    obtain ⟨t, isTask⟩ := Option.ne_none_iff_exists'.mp recorded
    simp [isTask]
  | turn turned | wait turned =>
    rw [turned.made, turned.task]
    cases s.task <;> simp
  | _ => cases s.task <;> simp

theorem newest (passes : Passes plan s moment raised s' events) (newest : s.Newest) :
    s'.Newest := by
  cases passes with
  | begin idle =>
    rintro t ⟨⟩
    rfl
  | stop recorded well => exact nofun
  | turn turned | wait turned =>
    intro t isTask
    rw [turned.task, Option.map_eq_some_iff] at isTask
    obtain ⟨t, before, rfl⟩ := isTask
    rw [turned.made, Task.turned]
    split <;> exact newest t before
  | _ => exact newest

/-- **A failed task is recorded for good.** -/
theorem lost (passes : Passes plan s moment raised s' events) (failed : s.hasFailed = true) :
    s'.task = s.task := by
  obtain ⟨number, isTask⟩ := Watcher.hasFailed_iff.mp failed
  cases passes with
  | begin idle =>
    rw [idle] at isTask
    cases isTask
  | stop recorded well =>
    rw [failed] at well
    cases well
  | turn turned | wait turned =>
    rw [turned.task, isTask]
    rfl
  | _ => rfl

/-- Where no task is recorded only a start records one. -/
theorem stays_idle (passes : Passes plan s moment raised s' events) (idle : s.task = none) :
    s'.task = none ∨ moment = .start := by
  cases passes with
  | begin _ | again _ => exact .inr rfl
  | stop _ _ => exact .inl rfl
  | turn turned | wait turned =>
    left
    rw [turned.task, idle, Option.map_none]
  | _ => exact .inl idle

/-- A start that finds a task changes nothing. -/
theorem start_again (passes : Passes plan s .start raised s' events) (recorded : s.task ≠ none) :
    raised = false ∧ s' = s ∧ events = [] := by
  cases passes with
  | begin idle => exact absurd idle recorded
  | again _ => exact ⟨rfl, rfl, rfl⟩

theorem start_begins (passes : Passes plan s .start raised s' events) (idle : s.task = none) :
    raised = false ∧ s'.task = some ⟨s.made, .pending⟩ ∧
      events = [.noted (.watcherStarted plan.directory)] := by
  cases passes with
  | begin _ => exact ⟨rfl, rfl, rfl⟩
  | again recorded => exact absurd idle recorded

theorem stop_unneeded (passes : Passes plan s .stop raised s' events) (idle : s.task = none) :
    raised = false ∧ s' = s ∧ events = [] := by
  cases passes with
  | unneeded _ => exact ⟨rfl, rfl, rfl⟩
  | refused failed =>
    rw [Watcher.hasFailed, idle] at failed
    cases failed
  | stop recorded _ => exact absurd idle recorded

/-- A task that is waited for and has not run yet begins to watch. -/
theorem turn_watches {number : Nat}
    (passes : Passes plan s moment raised s' events)
    (is : moment = .turn ending ∨ moment = .wait ending)
    (pending : s.task = some ⟨number, .pending⟩) :
    ∃ called, events = .watching plan.directory :: called := by
  cases passes with
  | turn turned | wait turned => exact turned.watches number pending
  | _ => simp at is

theorem waited (passes : Passes plan s (.wait ending) raised s' events) :
    raised = s'.hasFailed := by
  cases passes
  rfl

/-- A stop raises exactly if it finds a failed task. -/
theorem stop_raised (passes : Passes plan s .stop raised s' events) : raised = s.hasFailed := by
  cases passes with
  | unneeded idle => rw [Watcher.hasFailed, idle, Option.any_none]
  | refused failed => exact failed.symm
  | stop recorded well => exact well.symm

/-- **A stop leaves no task recorded exactly if it does not raise.** -/
theorem stop_forgets_iff (passes : Passes plan s .stop raised s' events) :
    s'.task = none ↔ raised = false := by
  cases passes with
  | unneeded idle => simp [idle]
  | refused failed =>
    obtain ⟨number, isTask⟩ := Watcher.hasFailed_iff.mp failed
    simp [isTask]
  | stop recorded well => simp

end Passes

/-! ## Moments that have passed -/

/-- A moment that has passed. -/
structure Passage where
  before : Watcher
  moment : Moment
  raised : Bool
  after : Watcher
  events : List Event

/-- Lets some moments pass, one behind the other, each in the world that the one before left. -/
def passages (plan : Plan) : World → Watcher → List Moment → List Passage
  | _, _, [] => []
  | w, s, moment :: rest =>
    let o := s.pass plan moment w
    match o.result with
    | .ok (after, raised) =>
      ⟨s, moment, raised, after, o.events⟩ :: passages plan (w.withFiles o.files) after rest
    | .error _ => []

/-- That each moment finds the watcher that the one before left, the first one a given watcher. -/
def Linked : Watcher → List Passage → Prop
  | _, [] => True
  | s, p :: rest => p.before = s ∧ Linked p.after rest

namespace Passage

/-- That a moment did what it does. -/
def Lawful (plan : Plan) (p : Passage) : Prop :=
  Passes plan p.before p.moment p.raised p.after p.events

/-- Whether a task was made. -/
def begins (p : Passage) : Bool := decide (p.before.made < p.after.made)

/-- Whether the recorded task was ended and forgotten. -/
def ends (p : Passage) : Bool := p.before.task.isSome && p.after.task.isNone

/-- The tasks that are made and that are ended are counted one by one. -/
theorem counted {p : Passage} (lawful : p.Lawful plan) :
    p.before.recorded + [p].countP begins = [p].countP ends + p.after.recorded := by
  have toNat : ∀ f : Passage → Bool, [p].countP f = (f p).toNat := by
    intro f
    rw [List.countP_singleton]
    cases f p <;> rfl
  rw [toNat, toNat]
  exact Passes.balanced lawful

end Passage

section Run

variable {moments : List Moment} {passed past rest : List Passage} {p : Passage}

/-- The first moment passes, and the others behind it in the world that it left. -/
theorem exists_passages_cons (plan : Plan) (w : World) (s : Watcher) (moment : Moment)
    (rest : List Moment) :
    ∃ p w', passages plan w s (moment :: rest) = p :: passages plan w' p.after rest ∧
      p.before = s ∧ p.moment = moment ∧ p.Lawful plan := by
  obtain ⟨s', raised, files, events, ran, passes⟩ := pass_run plan s moment w
  refine ⟨⟨s, moment, raised, s', events⟩, w.withFiles files, ?_, rfl, rfl, passes⟩
  rw [passages, ran]

/-- All moments pass. -/
theorem passages_moments (plan : Plan) (w : World) (s : Watcher) (moments : List Moment) :
    (passages plan w s moments).map (·.moment) = moments := by
  induction moments generalizing w s with
  | nil => rfl
  | cons moment rest ih =>
    obtain ⟨p, w', split, _, same, _⟩ := exists_passages_cons plan w s moment rest
    rw [split, List.map_cons, same, ih]

theorem passages_linked (plan : Plan) (w : World) (s : Watcher) (moments : List Moment) :
    Linked s (passages plan w s moments) := by
  induction moments generalizing w s with
  | nil => trivial
  | cons moment rest ih =>
    obtain ⟨p, w', split, first, _, _⟩ := exists_passages_cons plan w s moment rest
    rw [split]
    exact ⟨first, ih w' p.after⟩

theorem passages_lawful (plan : Plan) (w : World) (s : Watcher) (moments : List Moment) :
    ∀ p ∈ passages plan w s moments, p.Lawful plan := by
  induction moments generalizing w s with
  | nil => exact fun _ member => absurd member List.not_mem_nil
  | cons moment rest ih =>
    obtain ⟨p, w', split, _, _, lawful⟩ := exists_passages_cons plan w s moment rest
    rw [split]
    exact List.forall_mem_cons.mpr ⟨lawful, ih w' p.after⟩

namespace Linked

/-- **What each moment preserves holds all along.** -/
theorem invariant {I : Watcher → Prop} (linked : Linked s passed)
    (lawful : ∀ q ∈ passed, q.Lawful plan)
    (preserved : ∀ q : Passage, q.Lawful plan → I q.before → I q.after) (holds : I s) :
    ∀ q ∈ passed, I q.before ∧ I q.after := by
  induction passed generalizing s with
  | nil => exact fun _ member => absurd member List.not_mem_nil
  | cons q rest ih =>
    obtain ⟨rfl, behind⟩ := linked
    obtain ⟨here, others⟩ := List.forall_mem_cons.mp lawful
    have left : I q.after := preserved q here holds
    exact List.forall_mem_cons.mpr ⟨⟨holds, left⟩, ih behind others left⟩

/-- As many tasks have been made as were ended, but for the one that is recorded. -/
theorem balanced (linked : Linked s (past ++ p :: rest))
    (lawful : ∀ q ∈ past ++ p :: rest, q.Lawful plan) :
    s.recorded + (past ++ [p]).countP Passage.begins =
      (past ++ [p]).countP Passage.ends + p.after.recorded := by
  induction past generalizing s with
  | nil =>
    obtain ⟨rfl, _⟩ := linked
    exact Passage.counted (lawful p (.head _))
  | cons q past ih =>
    -- the first moment balances with what it leaves, which is what the others begin with
    obtain ⟨rfl, behind⟩ := linked
    obtain ⟨here, others⟩ := List.forall_mem_cons.mp lawful
    have first := Passage.counted here
    have later := ih behind others
    have split : ∀ f : Passage → Bool,
        (q :: past ++ [p]).countP f = [q].countP f + (past ++ [p]).countP f := by
      intro f
      rw [← List.countP_append]
      rfl
    rw [split, split]
    omega

/-- Behind a moment that leaves a failed task none leaves another one. -/
theorem lost (linked : Linked s (past ++ p :: rest))
    (lawful : ∀ q ∈ past ++ p :: rest, q.Lawful plan) (failed : p.after.hasFailed = true) :
    ∀ q ∈ rest, q.before.task = p.after.task ∧ q.after.task = p.after.task := by
  induction past generalizing s with
  | nil =>
    -- each later moment finds the failed task recorded, and so leaves it
    have others := (List.forall_mem_cons.mp lawful).2
    refine linked.2.invariant (I := fun s => s.task = p.after.task) others ?_ rfl
    intro q here same
    rw [← same]
    apply here.lost
    rw [Watcher.hasFailed, same]
    exact failed
  | cons q past ih => exact ih linked.2 (List.forall_mem_cons.mp lawful).2

end Linked

end Run

/-! ## A watcher's life -/

/-- What some calls and turns of the task, in order, make of a watcher that has not been started. -/
structure Lifecycle (plan : Plan) (batches : List Batch) (moments : List Moment)
    (passed : List Passage) : Prop where
  /-- Each moment passes, behind the one before. -/
  complete : passed.map (·.moment) = moments
  linked : Linked (Watcher.create batches) passed
  /-- At any time as many tasks have been made as were ended, and one more if one is recorded. -/
  single : ∀ past p rest, passed = past ++ p :: rest →
    (past ++ [p]).countP Passage.begins =
      (past ++ [p]).countP Passage.ends + if p.after.task.isSome then 1 else 0
  newest : ∀ p ∈ passed, ∀ t, p.after.task = some t → t.number + 1 = p.after.made
  /-- A task is made by a start that finds none, and is forgotten by a stop that ends it. -/
  begins_iff : ∀ p ∈ passed, p.begins = true ↔ p.moment = .start ∧ p.before.task = none
  ends_iff : ∀ p ∈ passed, p.ends = true ↔
    p.moment = .stop ∧ p.before.task ≠ none ∧ p.before.hasFailed = false
  /-- A start that finds a task changes nothing. -/
  again : ∀ p ∈ passed, p.moment = .start → p.before.task ≠ none →
    p.raised = false ∧ p.after = p.before ∧ p.events = []
  /-- One that finds none makes a new task, and its first turn begins to watch the directory. -/
  begun : ∀ p ∈ passed, p.moment = .start → p.before.task = none → p.raised = false ∧
    p.after.task = some ⟨p.before.made, .pending⟩ ∧
    p.events = [.noted (.watcherStarted plan.directory)]
  watches : ∀ p ∈ passed, ∀ number ending, p.before.task = some ⟨number, .pending⟩ →
    p.moment = .turn ending ∨ p.moment = .wait ending →
    ∃ called, p.events = .watching plan.directory :: called
  /-- A stop that finds no task does nothing. -/
  unneeded : ∀ p ∈ passed, p.moment = .stop → p.before.task = none →
    p.raised = false ∧ p.after = p.before ∧ p.events = []
  /-- It raises exactly if the task has failed, and leaves none recorded exactly if it does not. -/
  raised_iff : ∀ p ∈ passed, p.moment = .stop → (p.raised = true ↔ p.before.hasFailed = true)
  forgotten_iff : ∀ p ∈ passed, p.moment = .stop → (p.after.task = none ↔ p.raised = false)
  /-- Once none is recorded there is none until the next start. -/
  idle : ∀ p ∈ passed, p.before.task = none → p.after.task = none ∨ p.moment = .start
  /-- A wait raises exactly if the task fails. -/
  waited_iff : ∀ p ∈ passed, ∀ ending, p.moment = .wait ending →
    (p.raised = true ↔ p.after.hasFailed = true)
  /-- Once a task has failed it is the one that is recorded, and no later start makes another. -/
  lost : ∀ past p rest, passed = past ++ p :: rest → p.after.hasFailed = true → ∀ q ∈ rest,
    q.after.task = p.after.task ∧ q.begins = false ∧ (q.moment = .stop → q.raised = true)

/-- **A watcher has at most one task, and forgets it when it is stopped, unless its stream has
failed.** -/
theorem lifecycle (plan : Plan) (w : World) (batches : List Batch) (moments : List Moment) :
    Lifecycle plan batches moments (passages plan w (.create batches) moments) := by
  have linked := passages_linked plan w (.create batches) moments
  have lawful := passages_lawful plan w (.create batches) moments
  generalize isPassed : passages plan w (.create batches) moments = passed at linked lawful
  have passes : ∀ p ∈ passed, ∀ moment, p.moment = moment →
      Passes plan p.before moment p.raised p.after p.events := by
    rintro p member _ rfl
    exact lawful p member
  have begins : ∀ p ∈ passed, p.begins = true ↔ p.moment = .start ∧ p.before.task = none := by
    intro p member
    rw [Passage.begins, decide_eq_true_eq]
    exact (lawful p member).made_lt_iff
  exact {
    complete := by
      rw [← isPassed]
      exact passages_moments plan w _ moments
    linked := linked
    single := by
      rintro past p rest rfl
      have balanced := linked.balanced lawful
      have none : (Watcher.create batches).recorded = 0 := rfl
      rw [none, Nat.zero_add] at balanced
      rw [balanced, Watcher.recorded]
      cases p.after.task <;> rfl
    newest := by
      have holds : (Watcher.create batches).Newest := nofun
      intro p member
      exact (linked.invariant lawful (fun _ here => here.newest) holds p member).2
    begins_iff := fun p member => begins p member
    ends_iff := by
      intro p member
      rw [Passage.ends, Bool.and_eq_true, Option.isSome_iff_ne_none, Option.isNone_iff_eq_none]
      exact (lawful p member).forgets_iff
    again := fun p member is => (passes p member _ is).start_again
    begun := fun p member is => (passes p member _ is).start_begins
    watches := fun p member number ending pending is => (lawful p member).turn_watches is pending
    unneeded := fun p member is => (passes p member _ is).stop_unneeded
    raised_iff := by
      intro p member is
      rw [(passes p member _ is).stop_raised]
    forgotten_iff := fun p member is => (passes p member _ is).stop_forgets_iff
    idle := fun p member => (lawful p member).stays_idle
    waited_iff := by
      intro p member ending is
      rw [(passes p member _ is).waited]
    lost := by
      rintro past p rest rfl failed q member
      obtain ⟨before, after⟩ := linked.lost lawful failed q member
      have isLawful : q ∈ past ++ p :: rest := List.mem_append_right _ (.tail _ member)
      obtain ⟨number, isTask⟩ := Watcher.hasFailed_iff.mp failed
      rw [isTask] at before
      refine ⟨after, ?_, fun is => ?_⟩
      · rw [Bool.eq_false_iff, ne_eq, begins q isLawful, before]
        exact fun starts => nomatch starts.2
      · rw [(passes q isLawful _ is).stop_raised]
        exact Watcher.hasFailed_iff.mpr ⟨number, before⟩ }

/-- A plan that does nothing about changes. -/
def idlePlan : Plan := .create (.ofText "/ws") [".rs"] fun _ _ => return

/-- When the stream has failed, neither a stop nor another one forgets the task, and the start
behind them begins no watch. -/
theorem stop_behind_failure :
    (passages idlePlan (.answering Checker.sampleView Checker.sampleAnswer) (.create [])
        [.start, .turn ⟨.fail, by decide⟩, .stop, .stop, .start]).map
      (fun p => (p.raised, p.after.task, p.events)) =
    [(false, some ⟨0, .pending⟩, [.noted (.watcherStarted (.ofText "/ws"))]),
      (false, some ⟨0, .failed⟩, [.watching (.ofText "/ws")]),
      (true, some ⟨0, .failed⟩, []),
      (true, some ⟨0, .failed⟩, []),
      (false, some ⟨0, .failed⟩, [])] := rfl

end OwnerBuild.Watch
