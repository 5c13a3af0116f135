/-
# OwnerBuild.Proofs.Cli.Status -- the status that commands exit with

What a command exits with is settled by the action behind it: a program that could not
be run makes it exit with 1, other failures stay failures, and a result is passed on.
For a check that means one line for every world (`check_status`): once the checkers have
been run, it exits with 1 exactly if one of their results has an error.
-/

import OwnerBuild.Cli.Report
import OwnerBuild.Proofs.Action.Results

namespace OwnerBuild

namespace Cli

variable [Markup.EmojiTable] {α : Type} {a : Action α} {next : α → Action Nat} {w : World}

/-- With a result a command goes on, in the world that is left. -/
theorem orTell_ok {x : α} (h : (a w).result = .ok x) :
    (orTell a next w).result = (next x (w.withFiles (a w).files)).result := by
  have run : a w = ⟨.ok x, (a w).files, (a w).events⟩ := by rw [← h]
  have passed := Action.orLaunchFailure_ok run
  rw [orTell, Action.bind_apply_ok (congrArg Outcome.result passed), passed]

/-- With a result a command goes on; if the files were left alone, in the same world. -/
theorem orTell_undisturbed {x : α} {events : List Event}
    (h : a w = ⟨.ok x, w.view.files, events⟩) :
    orTell a next w = { next x w with events := events ++ (next x w).events } := by
  rw [orTell, Action.bind_undisturbed (Action.orLaunchFailure_ok h)]

/-- That a program could not be run is told in one line, and ends the command with 1. -/
theorem orTell_launch {executable reason : String} {events : List Event}
    (h : a w = ⟨.error (.launch executable reason), w.view.files, events⟩) :
    orTell a next w = ⟨.ok 1, w.view.files,
      events ++ [.printed (launchLine (.launch executable reason))]⟩ := by
  rw [orTell, Action.bind_undisturbed (Action.orLaunchFailure_launch h)]
  rfl

theorem printResults_status (results : List CheckResult) :
    (printResults results w).result = .ok (exitStatus (results.any (·.hasErrors))) := rfl

/-- **A check exits with 1 exactly if one of its results has an error.** -/
theorem check_status {r : Registry} {path : Path} {results : List (Checker × CheckResult)}
    (h : (r.checkAll path w).result = .ok results) :
    (check r path w).result = .ok (exitStatus (results.any (·.2.hasErrors))) := by
  rw [check, orTell_ok h]
  cases results with
  | nil => rfl
  | cons first rest =>
    refine (printResults_status _).trans ?_
    rw [List.any_map]
    rfl

theorem check_status_one {r : Registry} {path : Path} {results : List (Checker × CheckResult)}
    {c : Checker} {result : CheckResult} (h : (r.checkAll path w).result = .ok results)
    (mem : (c, result) ∈ results) (bad : result.hasErrors = true) :
    (check r path w).result = .ok 1 := by
  have some_bad : results.any (·.2.hasErrors) = true := List.any_eq_true.mpr ⟨_, mem, bad⟩
  rw [check_status h, some_bad]
  rfl

end Cli

end OwnerBuild
