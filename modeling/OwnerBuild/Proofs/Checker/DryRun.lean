/-
# OwnerBuild.Proofs.Checker.DryRun -- the build that is shown is the build that is run

A check and the command that only shows its build look the path up, each on its own, and
assemble the build, each on its own; where the build is to be run is looked up a third time.
`DryRun` says that the three agree: the check starts what showing starts and then the build
that was shown, where it was said to be run; one has nothing to do exactly when the other
has; and a failure of the one is one of the other, unless the build itself was refused.

Nothing is assumed of the path: where the search for a workspace fails, showing and checking
fail in the same way. Programs answer by their command and directory alone.
-/

import OwnerBuild.Proofs.Checker.Runs

namespace OwnerBuild

/-! ## Builds among starts -/

/-- Whether a start runs a build. -/
def Start.isBuild (s : Start) : Bool := s.command[1]? == some "build"

/-- The builds among the starts that an outcome shows. -/
def Outcome.builds {α : Type} (o : Outcome α) : List Start := o.starts.filter Start.isBuild

/-- Asking for owners is no build. -/
theorem Query.isBuild_command {settings : Settings} {name : String} {query : List String}
    {root : Path} (asked : command settings name = .ok query) :
    Start.isBuild ⟨query, root⟩ = false := by
  unfold command at asked
  cases found : owners name with
  | error e =>
    rw [found] at asked
    cases asked
  | ok expression =>
    rw [found] at asked
    obtain rfl := Except.ok.inj asked
    rfl

theorem Build.isBuild_command {settings : Settings} {format : Format}
    {targets command : List String} {root : Path}
    (assembled : Build.command settings format targets = .ok command) :
    Start.isBuild ⟨command, root⟩ = true := by
  unfold Build.command at assembled
  split at assembled
  · cases assembled
  · obtain rfl := Except.ok.inj assembled
    rfl

namespace Checker

variable {c : Checker} {v : View} {answer : Start → Answer} {path : Path}

/-! ## Showing the build -/

section Shown

variable {events : List Event}

theorem command_idle
    (prepared : c.prepare path (.answering v answer) = ⟨.ok none, v.files, events⟩) :
    c.command path (.answering v answer) = ⟨.ok none, v.files, events⟩ := by
  unfold command
  exact Action.bind_return prepared rfl

theorem command_failed {e : Failure}
    (prepared : c.prepare path (.answering v answer) = ⟨.error e, v.files, events⟩) :
    c.command path (.answering v answer) = ⟨.error e, v.files, events⟩ := by
  unfold command
  exact Action.bind_failed prepared

theorem command_assembled {p : Prepared} {command : List String}
    (prepared : c.prepare path (.answering v answer) = ⟨.ok (some p), v.files, events⟩)
    (assembled : Build.command c.settings c.format p.targets = .ok command) :
    c.command path (.answering v answer) = ⟨.ok (some command), v.files, events⟩ := by
  unfold Checker.command
  refine Action.bind_return prepared ?_
  dsimp only
  rw [assembled, Action.ofExcept_ok, Action.pure_bind]

end Shown

theorem workingDirectory_run (w : World) {found : Option Workspace}
    (located : w.view.workspace? path = .ok found) :
    workingDirectory path w = ⟨.ok (found.map (·.root)), w.view.files, []⟩ := by
  unfold workingDirectory
  exact Action.bind_pure_run (workspaceOf_run w located)

/-! ## Where the search for a workspace fails -/

section Unlocated

variable {e : LookupError}

theorem workspaceOf_failed (w : World) (unlocated : w.view.workspace? path = .error e) :
    workspaceOf path w = ⟨.error (.lookup e), w.view.files, []⟩ := by
  show (⟨(w.view.workspace? path).mapError .lookup, w.view.files, []⟩ : Outcome _) = _
  rw [unlocated]
  rfl

theorem prepare_unlocated (w : World) (unlocated : w.view.workspace? path = .error e) :
    c.prepare path w = ⟨.error (.lookup e), w.view.files, []⟩ := by
  unfold prepare
  exact Action.bind_failed (workspaceOf_failed w unlocated)

end Unlocated

/-! ## Agreement -/

/-- What the command that shows a build (`told`), the check that runs it (`ran`) and the
directory that builds are run in (`place`) have to do with each other. -/
structure DryRun (c : Checker) (answer : Start → Answer) (told : Outcome (Option (List String)))
    (ran : Outcome (Option CheckResult)) (place : Except Failure (Option Path)) : Prop where
  /-- Showing a build starts none. -/
  dry : told.builds = []
  /-- The check starts what showing starts, and then its build if it comes to one. -/
  starts_eq : ran.starts = told.starts ++ ran.builds
  /-- A command is shown exactly if it is the one build that is started, in the directory
  that builds are run in. -/
  shown_iff : ∀ argv, told.result = .ok (some argv) ↔
    ∃ d, place = .ok (some d) ∧ ran.builds = [⟨argv, d⟩]
  /-- Some command is shown exactly if some build is started. -/
  some_shown_iff : (∃ argv, told.result = .ok (some argv)) ↔ ran.builds ≠ []
  /-- There is nothing to show exactly if there is nothing to check. -/
  nothing_iff : told.result = .ok none ↔ ran.result = .ok none
  /-- Showing fails to run the executable exactly if the query was refused. -/
  launch_iff : ∀ executable reason, told.result = .error (.launch executable reason) ↔
    ∃ query refusal, told.starts = [query] ∧ answer query = .refused refusal ∧
      executable = c.settings.executable ∧ reason = refusal.text
  /-- Then the check fails to run the same executable for the same reason. -/
  launch : ∀ executable reason, told.result = .error (.launch executable reason) →
    ran.result = .error (.launch executable reason)
  /-- Every other failure is one of both or of none. -/
  other_iff : ∀ e : Failure, (∀ executable reason, e ≠ .launch executable reason) →
    (told.result = .error e ↔ ran.result = .error e)

section Ways

variable {events : List Event} {files : FileTree} {place : Except Failure (Option Path)}

/-- Where the search for a workspace fails nothing is started. -/
theorem DryRun.of_lookup {e : LookupError} :
    DryRun c answer ⟨.error (.lookup e), files, []⟩ ⟨.error (.lookup e), files, []⟩ place where
  dry := rfl
  starts_eq := rfl
  shown_iff := by simp [Outcome.builds, Outcome.starts]
  some_shown_iff := by simp [Outcome.builds, Outcome.starts]
  nothing_iff := by simp
  launch_iff := by simp [Outcome.starts]
  launch := by simp
  other_iff := by simp

/-- Without owners both have nothing to do. -/
theorem DryRun.of_idle {n : Log.Note}
    (noBuild : (events.filterMap Event.start?).filter Start.isBuild = [])
    (answered : ∀ s ∈ events.filterMap Event.start?, ∀ refusal, answer s ≠ .refused refusal) :
    DryRun c answer ⟨.ok none, files, events⟩ ⟨.ok none, files, events ++ [.noted n]⟩
      place where
  dry := noBuild
  starts_eq := by simp [Outcome.builds, Outcome.starts, noBuild, List.filterMap_cons]
  shown_iff := by simp [Outcome.builds, Outcome.starts, noBuild, List.filterMap_cons]
  some_shown_iff := by simp [Outcome.builds, Outcome.starts, noBuild, List.filterMap_cons]
  nothing_iff := by simp
  launch_iff := by
    intro executable reason
    constructor
    · simp
    · rintro ⟨query, refusal, starts, refused, -⟩
      have started : query ∈ events.filterMap Event.start? := by
        rw [show events.filterMap Event.start? = [query] from starts]
        exact List.mem_singleton_self query
      exact absurd refused (answered query started refusal)
  launch := by simp
  other_iff := by simp

/-- A query that was refused ends both. -/
theorem DryRun.of_refused {query : Start} {refusal : LaunchError}
    (starts : events.filterMap Event.start? = [query]) (noBuild : query.isBuild = false)
    (refused : answer query = .refused refusal) :
    DryRun c answer ⟨.error (.launch c.settings.executable refusal.text), files, events⟩
      ⟨.error (.launch c.settings.executable refusal.text), files, events⟩ place where
  dry := by simp [Outcome.builds, Outcome.starts, starts, noBuild]
  starts_eq := by simp [Outcome.builds, Outcome.starts, starts, noBuild]
  shown_iff := by simp [Outcome.builds, Outcome.starts, starts, noBuild]
  some_shown_iff := by simp [Outcome.builds, Outcome.starts, starts, noBuild]
  nothing_iff := by simp
  launch_iff := by simp [Outcome.starts, starts, refused, eq_comm]
  launch := by simp
  other_iff := by simp

/-- Behind a query that named owners the build is shown by the one and started by the other,
whatever comes of it. -/
theorem DryRun.of_build {query : Start} {argv : List String} {directory : Path}
    {built : List Event} {result : Except Failure (Option CheckResult)}
    (starts : events.filterMap Event.start? = [query]) (noBuild : query.isBuild = false)
    (answered : ∀ refusal, answer query ≠ .refused refusal)
    (building : built.filterMap Event.start? = [⟨argv, directory⟩])
    (isBuild : Start.isBuild ⟨argv, directory⟩ = true) (something : result ≠ .ok none)
    (failure : ∀ e, result = .error e → ∃ executable reason, e = .launch executable reason) :
    DryRun c answer ⟨.ok (some argv), files, events⟩ ⟨result, files, events ++ built⟩
      (.ok (some directory)) where
  dry := by simp [Outcome.builds, Outcome.starts, starts, noBuild]
  starts_eq := by simp [Outcome.builds, Outcome.starts, starts, building, noBuild, isBuild]
  shown_iff := by
    intro argv'
    simp [Outcome.builds, Outcome.starts, starts, building, noBuild, isBuild]
  some_shown_iff := by
    simp [Outcome.builds, Outcome.starts, starts, building, noBuild, isBuild]
  nothing_iff := by simp [something]
  launch_iff := by simp [Outcome.starts, starts, answered]
  launch := by simp
  other_iff := by
    intro e noLaunch
    constructor
    · simp
    · intro failed
      obtain ⟨executable, reason, isLaunch⟩ := failure e failed
      exact absurd isLaunch (noLaunch executable reason)

end Ways

/-- **The build that is shown is the build that is run.** -/
theorem dryRun_answering (c : Checker) (v : View) (answer : Start → Answer) (path : Path) :
    DryRun c answer (c.command path (.answering v answer)) (c.check path (.answering v answer))
      (workingDirectory path (.answering v answer)).result := by
  cases located : v.workspace? path with
  | error e =>
    have prepared := prepare_unlocated (c := c) (.answering v answer) located
    rw [command_failed prepared, check_failed prepared]
    exact .of_lookup
  | ok found =>
    have lookups : PrepareRun c v answer path found (c.prepare path (.answering v answer)) :=
      prepare_run located
    rw [workingDirectory_run (.answering v answer) located]
    generalize prepared : c.prepare path (.answering v answer) = o at lookups
    cases lookups with
    | outside =>
      rw [command_idle prepared, check_idle prepared]
      exact .of_idle rfl (by simp)
    | unquotable named unquotable =>
      rw [command_idle prepared, check_idle prepared]
      exact .of_idle rfl (by simp)
    | refused named asked refusal =>
      rw [command_failed prepared, check_failed prepared]
      exact .of_refused rfl (Query.isBuild_command asked) refusal
    | unowned named asked finished unowned =>
      rw [command_idle prepared, check_idle prepared]
      refine .of_idle ?_ ?_
      · simp [Query.isBuild_command asked]
      · simp [finished]
    | @owned w name query output errors status named asked finished owned =>
      obtain ⟨argv, assembled⟩ :
          ∃ argv, Build.command c.settings c.format (ownersIn output) = .ok argv :=
        ⟨_, if_neg owned⟩
      have noBuild : Start.isBuild ⟨query, w.root⟩ = false := Query.isBuild_command asked
      have isBuild : Start.isBuild ⟨argv, w.root⟩ = true := Build.isBuild_command assembled
      have ran : ∀ refusal, answer ⟨query, w.root⟩ ≠ .refused refusal := by simp [finished]
      rw [command_assembled prepared assembled]
      -- what comes of the build makes no difference to what was shown
      cases answered : answer ⟨argv, w.root⟩ with
      | refused refusal =>
        rw [check_refused prepared assembled answered]
        exact .of_build rfl noBuild ran (by simp) isBuild (by simp) (by simp)
      | finished written errors status =>
        rw [check_finished prepared assembled answered]
        exact .of_build rfl noBuild ran (by simp) isBuild (by simp) (by simp)

end Checker

end OwnerBuild
