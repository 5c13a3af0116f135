/-
# OwnerBuild.Proofs.Checker.Failures -- how the steps of a check can fail

Many steps of a check have failures of their own: a path may have no name inside a
workspace, a name may have no quoted form, a build needs targets. None of them can come
about. The workspace is one that was found for the path, so the path has a name in it; a name
that cannot be quoted is not asked for; a build is only assembled for targets that were
found. What is left is that the executable could not be run (`onlyLaunchesFail`), and the
report turns even that into a finding.

The world is any in which what is started has an answer, be it a refusal; programs may write what
they like, end as they like and change files between two starts. Starts that are not made need no
answer, so the law is also about the launcher that runs the scripts of the file tree, which has none
for words with a NUL in them (`answers_local_iff`). The path is one that can be searched for a
workspace.
-/

import OwnerBuild.Process.Local
import OwnerBuild.Proofs.Checker.Trace

namespace OwnerBuild

/-! ## Launch failures -/

/-- That a failure is that an executable could not be run. -/
def Failure.IsLaunchOf (executable : String) (e : Failure) : Prop :=
  ∃ reason, e = .launch executable reason

/-- That each of some starts has an answer: the program has run, or it was refused. -/
def World.Answers (w : World) (starts : List Start) : Prop :=
  ∀ v, ∀ s ∈ starts, w.launcher v s ≠ none

theorem World.Answers.of_subset {w : World} {starts starts' : List Start}
    (answers : w.Answers starts') (among : starts ⊆ starts') : w.Answers starts :=
  fun v s member => answers v s (among member)

/-- The launcher of a file tree answers the starts that hold no NUL. -/
theorem World.answers_local_iff {v : View} {starts : List Start} :
    World.Answers ⟨v, Local.launcher⟩ starts ↔
      ∀ s ∈ starts, Local.isPassable (s.directory.text :: s.command) = true := by
  have each : ∀ v s, Local.launcher v s ≠ none ↔
      Local.isPassable (s.directory.text :: s.command) = true := by
    intro v s
    unfold Local.launcher
    split
    · next passable =>
      refine iff_of_true ?_ passable
      split <;> exact Option.some_ne_none _
    · next unpassable => exact iff_of_false (fun some => some rfl) unpassable
  simp only [World.Answers, each]
  exact ⟨fun answers s => answers v s, fun passable _ s => passable s⟩

/-- That an action has a result, or fails because an executable could not be run. -/
def Outcome.OnlyLaunchFails {α : Type} (executable : String) (o : Outcome α) : Prop :=
  (∃ x, o.result = .ok x) ∨ ∃ reason, o.result = .error (.launch executable reason)

theorem Outcome.onlyLaunchFails_of_error {α : Type} {executable : String} {o : Outcome α}
    (h : ∀ e, o.result = .error e → e.IsLaunchOf executable) : o.OnlyLaunchFails executable := by
  cases result : o.result with
  | ok x => exact .inl ⟨x, result⟩
  | error e =>
    obtain ⟨reason, rfl⟩ := h e result
    exact .inr ⟨reason, result⟩

namespace Action

section Steps

variable {α β : Type} {a : Action α} {f : α → Action β} {w : World} {executable : String}

/-- What the first of two steps starts is started by both. -/
theorem starts_subset_bind : (a w).starts ⊆ ((a >>= f) w).starts := by
  cases first : (a w).result with
  | error e =>
    rw [bind_apply_error first]
    exact List.Subset.refl _
  | ok x =>
    rw [bind_apply_ok first, Outcome.starts, Outcome.starts, List.filterMap_append]
    exact List.subset_append_left _ _

/-- So is what the second one starts. -/
theorem starts_next_subset_bind {x : α} (first : (a w).result = .ok x) :
    (f x (w.withFiles (a w).files)).starts ⊆ ((a >>= f) w).starts := by
  rw [bind_apply_ok first, Outcome.starts, Outcome.starts, List.filterMap_append]
  exact List.subset_append_right _ _

/-- That an action in a world whose programs answer what it starts only fails because an executable
could not be run. -/
def FailsByLaunch (executable : String) (a : Action α) (w : World) : Prop :=
  w.Answers (a w).starts → ∀ e, (a w).result = .error e → e.IsLaunchOf executable

theorem failsByLaunch_of_ok {x : α} (h : (a w).result = .ok x) : a.FailsByLaunch executable w := by
  intro _ e failed
  rw [h] at failed
  cases failed

/-- Two steps fail so if each of them does, the second one behind a result of the first. -/
theorem FailsByLaunch.bind (first : a.FailsByLaunch executable w)
    (next : ∀ x, (a w).result = .ok x →
      (f x).FailsByLaunch executable (w.withFiles (a w).files)) :
    (a >>= f).FailsByLaunch executable w := by
  intro answers e failed
  rcases bind_result_eq_error_iff.mp failed with failed | ⟨x, ok, failed⟩
  · exact first (answers.of_subset starts_subset_bind) e failed
  · -- the first step may have changed files, but not who answers
    exact next x ok (answers.of_subset (starts_next_subset_bind ok)) e failed

/-- Behind a step that leaves the files alone the next one counts. -/
theorem FailsByLaunch.behind {x : α} {events : List Event}
    (first : a w = ⟨.ok x, w.view.files, events⟩) (next : (f x).FailsByLaunch executable w) :
    (a >>= f).FailsByLaunch executable w := by
  refine (failsByLaunch_of_ok (congrArg Outcome.result first)).bind ?_
  intro y isResult
  rw [first] at isResult
  obtain rfl := Except.ok.inj isResult
  rwa [first]

/-- A start that has an answer does not fail. -/
theorem start_failsByLaunch (s : Start) : (start s).FailsByLaunch executable w := by
  intro answers e failed
  have unanswered := (start_result_eq_error_iff.mp failed).1
  have seen : s ∈ (start s w).starts := by
    rw [start, unanswered]
    exact .head _
  exact absurd unanswered (answers w.view s seen)

/-- Where nothing else can fail, whether a program could be run is passed on as a value. -/
theorem FailsByLaunch.orLaunchFailure_run (fails : a.FailsByLaunch executable w)
    (answers : w.Answers (a w).starts) :
    a.orLaunchFailure w = ⟨.ok (a w).result, (a w).files, (a w).events⟩ := by
  cases asked : a w with
  | mk result files events =>
    cases result with
    | ok x => exact orLaunchFailure_ok asked
    | error e =>
      obtain ⟨reason, rfl⟩ := fails answers e (congrArg Outcome.result asked)
      exact orLaunchFailure_launch asked

end Steps

end Action

/-! ## Records -/

namespace Format

open Rustc (Message)

/-- The diagnostics of records are those of the messages among them that do not only sum up. -/
theorem parse_eq_flatMap (root : Path) (records : List (List Char)) :
    parse root records = (records.filterMap Message.read?).flatMap fun m =>
      if m.isSummary then [] else diagnosticsOf root m := by
  induction records with
  | nil => rfl
  | cons record rest ih =>
    rw [parse, List.flatMap_cons, diagnosticsIn, List.filterMap_cons]
    cases Message.read? record with
    | none => exact ih
    | some m => exact congrArg (_ ++ ·) ih

/-- Every record is a message or is passed over, and none is both. -/
theorem length_filterMap_read? (records : List (List Char)) :
    (records.filterMap Message.read?).length + (unreadable records).length = records.length := by
  induction records with
  | nil => rfl
  | cons record rest ih =>
    rw [unreadable] at ih ⊢
    cases read : Message.read? record <;> simp [read] <;> omega

end Format

namespace Checker

variable {c : Checker} {path : Path} {w : World} {found : Option Workspace}

/-! ## The lookups -/

/-- Asking for owners only fails if the query cannot be run. -/
theorem owners_failsByLaunch (settings : Settings) (root : Path) (name : String) :
    (owners settings root name).FailsByLaunch settings.executable w := by
  by_cases unquotable : Query.quoteWord? name.toList = none
  · unfold owners
    rw [if_pos unquotable]
    exact Action.failsByLaunch_of_ok rfl
  · -- the guard and the refusal to quote agree, so there is a query
    obtain ⟨query, asked⟩ := Query.exists_command settings unquotable
    rw [owners_of_command asked]
    refine .behind (Action.note_run _) ((Action.start_failsByLaunch _).bind ?_)
    intro answer _
    cases answer with
    | refused refusal =>
      rintro - e ⟨⟩
      exact ⟨_, rfl⟩
    | finished output errors status =>
      dsimp only
      split
      · exact Action.failsByLaunch_of_ok rfl
      · exact Action.failsByLaunch_of_ok rfl

/-- In the workspace that was found for a path the path has a name, so that nothing but the
query can keep its owners from being found. -/
theorem ownersOf_failsByLaunch {workspace : Workspace}
    (located : w.view.workspace? path = .ok (some workspace)) :
    (c.ownersOf workspace path).FailsByLaunch c.settings.executable w := by
  obtain ⟨name, named⟩ := View.relative_of_workspace? located
  rw [Action.FailsByLaunch, ownersOf_run w named]
  exact owners_failsByLaunch _ _ _

theorem prepare_failsByLaunch (located : w.view.workspace? path = .ok found) :
    (c.prepare path).FailsByLaunch c.settings.executable w := by
  unfold prepare
  refine .behind (workspaceOf_run w located) ?_
  cases found with
  | none => exact Action.failsByLaunch_of_ok rfl
  | some workspace =>
    exact (ownersOf_failsByLaunch located).bind fun _ _ => Action.failsByLaunch_of_ok rfl

/-- What has been prepared is something to build. -/
theorem prepare_targets_ne_nil {p : Prepared} (h : (c.prepare path w).result = .ok (some p)) :
    p.targets ≠ [] := by
  unfold prepare at h
  obtain ⟨found, -, h⟩ := Action.bind_result_eq_ok_iff.mp h
  cases found with
  | none => cases h
  | some workspace =>
    obtain ⟨targets, -, h⟩ := Action.bind_result_eq_ok_iff.mp h
    by_cases none : targets = []
    · rw [if_pos none] at h
      cases h
    · rw [if_neg none] at h
      cases h
      exact none

/-! ## The build -/

/-- For targets that were found there is a command. -/
theorem exists_command_of_prepare {p : Prepared} (h : (c.prepare path w).result = .ok (some p)) :
    ∃ command, Build.command c.settings c.format p.targets = .ok command :=
  ⟨_, if_neg (prepare_targets_ne_nil h)⟩

/-- Showing a build fails only where preparing it does. -/
theorem command_error {e : Failure} (h : (c.command path w).result = .error e) :
    (c.prepare path w).result = .error e := by
  unfold command at h
  rcases Action.bind_result_eq_error_iff.mp h with failed | ⟨prepared, isPrepared, h⟩
  · exact failed
  · cases prepared with
    | none => cases h
    | some p =>
      obtain ⟨command, assembled⟩ := exists_command_of_prepare isPrepared
      dsimp only at h
      rw [assembled] at h
      cases h

/-- A build that has a command only fails if it cannot be run. -/
theorem build_failsByLaunch {p : Prepared} {command : List String}
    (assembled : Build.command c.settings c.format p.targets = .ok command) :
    (c.build path p).FailsByLaunch c.settings.executable w := by
  unfold build
  rw [assembled, Action.ofExcept_ok, Action.pure_bind]
  refine .behind (Action.note_run _) ((Action.start_failsByLaunch _).bind ?_)
  intro answer _
  cases answer with
  | refused refusal =>
    rintro - e ⟨⟩
    exact ⟨_, rfl⟩
  | finished output errors status =>
    exact Action.failsByLaunch_of_ok
      (congrArg Outcome.result (conclude_run p command output errors status _))

theorem check_failsByLaunch (located : w.view.workspace? path = .ok found) :
    (c.check path).FailsByLaunch c.settings.executable w := by
  unfold check
  refine (prepare_failsByLaunch located).bind fun prepared isPrepared => ?_
  cases prepared with
  | none => exact Action.failsByLaunch_of_ok rfl
  | some p =>
    obtain ⟨command, assembled⟩ := exists_command_of_prepare isPrepared
    exact (build_failsByLaunch assembled).bind fun _ _ => Action.failsByLaunch_of_ok rfl

/-! ## The report -/

/-- What is started to find owners is started to prepare a build. -/
theorem starts_ownersOf_subset_prepare {workspace : Workspace}
    (located : w.view.workspace? path = .ok (some workspace)) :
    (c.ownersOf workspace path w).starts ⊆ (c.prepare path w).starts := by
  unfold prepare
  rw [Action.bind_undisturbed (workspaceOf_run w located)]
  exact Action.starts_subset_bind

/-- A report has a result, of two findings, whatever came of the query. -/
theorem report_result (answers : w.Answers (c.prepare path w).starts)
    (located : w.view.workspace? path = .ok found) :
    ∃ onWorkspace onTargets, (c.report path w).result = .ok [onWorkspace, onTargets] := by
  unfold report
  rw [Action.bind_undisturbed (workspaceOf_run w located)]
  cases found with
  | none => exact ⟨_, _, rfl⟩
  | some workspace =>
    have asked := (ownersOf_failsByLaunch (c := c) located).orLaunchFailure_run
      (answers.of_subset (starts_ownersOf_subset_prepare located))
    dsimp only
    rw [Action.bind_pure_run asked]
    exact ⟨_, _, rfl⟩

/-! ## All of it -/

/-- That nothing about a path fails but the launch of the configured executable. -/
structure OnlyLaunchesFail (c : Checker) (path : Path) (w : World) : Prop where
  /-- Preparing a build has a result, or the query could not be run. -/
  prepare : ((c.prepare path).run w).OnlyLaunchFails c.settings.executable
  /-- Showing the build has a result, or the query could not be run. -/
  command : ((c.command path).run w).OnlyLaunchFails c.settings.executable
  /-- A check has a result, or the query or the build could not be run. -/
  check : ((c.check path).run w).OnlyLaunchFails c.settings.executable
  /-- A report always has two findings. -/
  report : ∃ onWorkspace onTargets,
    ((c.report path).run w).result = .ok [onWorkspace, onTargets]
  /-- Reading what a build wrote always has a result, whatever the bytes. -/
  reading : ∀ p command output errors status, ∃ r,
    ((conclude path p command output errors status).run w).result = .ok r
  /-- Every record is a message, and counts as such, or is passed over. -/
  records : ∀ root records, Format.parse root records =
      ((records.filterMap Rustc.Message.read?).flatMap fun m =>
        if m.isSummary then [] else Format.diagnosticsOf root m) ∧
    (records.filterMap Rustc.Message.read?).length + (Format.unreadable records).length =
      records.length

/-- **Only launches fail.** For a path that can be searched for a workspace, and programs that
run or are refused in whatever way when they are started, no step of a check fails but by the
refusal of the configured executable. -/
theorem onlyLaunchesFail (c : Checker) (path : Path) (w : World) (found : Option Workspace)
    (located : w.view.workspace? path = .ok found)
    (answers : w.Answers ((c.check path).run w).starts) : OnlyLaunchesFail c path w := by
  -- the lookups are the beginning of a check
  have lookups : w.Answers (c.prepare path w).starts := answers.of_subset Action.starts_subset_bind
  exact
    { prepare := Outcome.onlyLaunchFails_of_error (prepare_failsByLaunch located lookups)
      command := Outcome.onlyLaunchFails_of_error fun e failed =>
        prepare_failsByLaunch located lookups e (command_error failed)
      check := Outcome.onlyLaunchFails_of_error (check_failsByLaunch located answers)
      report := report_result lookups located
      reading := fun p command output errors status =>
        ⟨resultOf path p command output errors status,
          congrArg Outcome.result (conclude_run p command output errors status w)⟩
      records := fun root records =>
        ⟨Format.parse_eq_flatMap root records, Format.length_filterMap_read? records⟩ }

/-- A launcher whose query names an owner and removes all files, and whose build is refused. -/
def sampleLauncher : Launcher := fun _ s => some (sampleAnswer s, ⟨[]⟩)

/-- Also where the query removes every file, nothing but the refused build fails; and where there
is no build tool in the file tree, nothing but the query. -/
theorem onlyLaunchesFail_sample :
    sampleView.workspace? (.ofText "/ws/lib.rs") = .ok (some ⟨.ofText "/ws"⟩) ∧
      World.Answers ⟨sampleView, sampleLauncher⟩ (((⟨"bazel", {}, .rustcJson⟩ : Checker).check
        (.ofText "/ws/lib.rs")).run ⟨sampleView, sampleLauncher⟩).starts ∧
      OnlyLaunchesFail ⟨"bazel", {}, .rustcJson⟩ (.ofText "/ws/lib.rs")
        ⟨sampleView, sampleLauncher⟩ ∧
      (((⟨"bazel", {}, .rustcJson⟩ : Checker).prepare (.ofText "/ws/lib.rs")).run
        ⟨sampleView, sampleLauncher⟩).result =
          .ok (some ⟨⟨.ofText "/ws"⟩, ["//:lib"]⟩) ∧
      (((⟨"bazel", {}, .rustcJson⟩ : Checker).check (.ofText "/ws/lib.rs")).run
        ⟨sampleView, sampleLauncher⟩).result = .error (.launch "bazel" "gone") ∧
      OnlyLaunchesFail ⟨"bazel", {}, .rustcJson⟩ (.ofText "/ws/lib.rs")
        ⟨sampleView, Local.launcher⟩ ∧
      (((⟨"bazel", {}, .rustcJson⟩ : Checker).check (.ofText "/ws/lib.rs")).run
        ⟨sampleView, Local.launcher⟩).result =
          .error (.launch "bazel" "[Errno 2] No such file or directory: 'bazel'") := by
  have located : sampleView.workspace? (.ofText "/ws/lib.rs") = .ok (some ⟨.ofText "/ws"⟩) := by
    decide +kernel
  have answers (starts : List Start) : World.Answers ⟨sampleView, sampleLauncher⟩ starts :=
    fun _ _ _ => Option.some_ne_none _
  have passable : World.Answers ⟨sampleView, Local.launcher⟩
      (((⟨"bazel", {}, .rustcJson⟩ : Checker).check (.ofText "/ws/lib.rs")).run
        ⟨sampleView, Local.launcher⟩).starts :=
    World.answers_local_iff.mpr (by decide +kernel)
  exact ⟨located, answers _, onlyLaunchesFail _ _ _ _ located (answers _), by decide +kernel,
    by decide +kernel, onlyLaunchesFail _ _ _ _ located passable, by decide +kernel⟩

end Checker

end OwnerBuild
