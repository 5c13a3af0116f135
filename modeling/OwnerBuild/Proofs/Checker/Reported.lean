/-
# OwnerBuild.Proofs.Checker.Reported -- a report retells the lookups of a check

A report looks a path up with branches of its own and turns what it found into two findings;
the lookups before a build turn the same answers into a preparation, or into nothing. Both
ask for the owners in the workspace that was found, so one is a function of the other: the
findings of a report are those on the workspace and on the preparation, and the events are the
same (`report_run`). `OnWorkspace` and `OnTargets` say what a finding tells, with the exact
condition for each form that it can take; it has no other form.

The world is any in which what is started has an answer; programs may also change files. The path is
one that can be searched for a workspace.
-/

import OwnerBuild.Proofs.Checker.Failures
import OwnerBuild.Proofs.Path.Text

namespace OwnerBuild

/-- In a world that answers by the start alone every start has an answer. -/
theorem World.answers_answering (v : View) (answer : Start → Answer) (starts : List Start) :
    (World.answering v answer).Answers starts := fun _ _ _ => Option.some_ne_none _

namespace Checker

variable {c : Checker} {path : Path} {w : World} {found : Option Workspace}

/-! ## One lookup, told in two ways -/

/-- What there is to build for some owners. -/
def preparation (workspace : Workspace) (targets : List String) : Option Prepared :=
  if targets = [] then none else some ⟨workspace, targets⟩

/-- The finding on the workspace around a path. -/
def workspaceFinding : Option Workspace → Finding
  | none => ⟨workspaceLabel, notFound, .error⟩
  | some workspace => ⟨workspaceLabel, workspace.root.text, .success⟩

/-- The finding on what was prepared for a path. -/
def preparedFinding : Except Failure (Option Prepared) → Finding
  | .error e => ⟨targetsLabel, e.message, .error⟩
  | .ok none => ⟨targetsLabel, notFound, .warning⟩
  | .ok (some p) => ⟨targetsLabel, String.intercalate ", " p.targets, .success⟩

/-- The finding on some owners is the one on what is prepared for them. -/
theorem preparedFinding_map (workspace : Workspace) (asked : Except Failure (List String)) :
    preparedFinding (asked.map (preparation workspace)) = targetsFinding asked := by
  match asked with
  | .error _ => rfl
  | .ok [] => rfl
  | .ok (_ :: _) => rfl

theorem prepare_outside (located : w.view.workspace? path = .ok none) :
    c.prepare path w = ⟨.ok none, w.view.files, []⟩ := by
  unfold prepare
  rw [Action.bind_undisturbed (workspaceOf_run w located)]
  rfl

/-- Inside a workspace the preparation is made of what came of asking for the owners. -/
theorem prepare_inside {workspace : Workspace}
    (located : w.view.workspace? path = .ok (some workspace)) :
    c.prepare path w =
      { c.ownersOf workspace path w with
        result := (c.ownersOf workspace path w).result.map (preparation workspace) } := by
  unfold prepare
  rw [Action.bind_undisturbed (workspaceOf_run w located)]
  dsimp only
  rw [Action.bind_pure_run rfl]
  rfl

/-- **A report finds what the lookups come to**, and shows the same events. -/
theorem report_run (answers : w.Answers (c.prepare path w).starts)
    (located : w.view.workspace? path = .ok found) :
    c.report path w =
      { c.prepare path w with
        result := .ok [workspaceFinding found, preparedFinding (c.prepare path w).result] } := by
  unfold report
  rw [Action.bind_undisturbed (workspaceOf_run w located)]
  cases found with
  | none =>
    rw [prepare_outside located]
    rfl
  | some workspace =>
    -- the path has a name in its workspace, so only the launch can have failed
    have asked := (ownersOf_failsByLaunch (c := c) located).orLaunchFailure_run
      (answers.of_subset (starts_ownersOf_subset_prepare located))
    rw [prepare_inside located]
    dsimp only
    rw [preparedFinding_map, Action.bind_pure_run asked]
    rfl

/-! ## Findings -/

/-- What the finding on the workspace says of what was found around a path. -/
structure OnWorkspace (found : Option Workspace) (f : Finding) : Prop where
  /-- It is a success with a root exactly if that is the root of the workspace. -/
  success_iff : ∀ root : Path, f = ⟨workspaceLabel, root.text, .success⟩ ↔ found = some ⟨root⟩
  /-- It is an error exactly if there is none. -/
  error_iff : f = ⟨workspaceLabel, notFound, .error⟩ ↔ found = none

/-- What the finding on the targets says of what was prepared for a path. -/
structure OnTargets (prepared : Except Failure (Option Prepared)) (f : Finding) : Prop where
  /-- It is a success with the targets exactly if some were found. -/
  success_iff : ∀ text, f = ⟨targetsLabel, text, .success⟩ ↔
    ∃ p, prepared = .ok (some p) ∧ text = String.intercalate ", " p.targets
  /-- It is a warning exactly if there is nothing to build. -/
  warning_iff : f = ⟨targetsLabel, notFound, .warning⟩ ↔ prepared = .ok none
  /-- It is an error with the wording of the failure exactly if the query could not be run. -/
  error_iff : ∀ text, f = ⟨targetsLabel, text, .error⟩ ↔ ∃ executable reason,
    prepared = .error (.launch executable reason) ∧ text = (Failure.launch executable reason).message

theorem onWorkspace_workspaceFinding (found : Option Workspace) :
    OnWorkspace found (workspaceFinding found) where
  success_iff := by
    intro root
    cases found with
    | none => simp [workspaceFinding]
    | some workspace =>
      -- a root is known by its text
      have same : workspace.root.text = root.text ↔ workspace = ⟨root⟩ :=
        ⟨fun h => congrArg Workspace.mk (Path.text_injective h), fun h => by rw [h]⟩
      simpa [workspaceFinding] using same
  error_iff := by cases found <;> simp [workspaceFinding]

theorem onTargets_preparedFinding {executable : String} {o : Outcome (Option Prepared)}
    (h : o.OnlyLaunchFails executable) : OnTargets o.result (preparedFinding o.result) := by
  rcases h with ⟨none | p, result⟩ | ⟨reason, result⟩
  · rw [result]
    constructor <;> simp [preparedFinding]
  · rw [result]
    constructor <;> simp [preparedFinding, eq_comm]
  · rw [result]
    refine ⟨by simp [preparedFinding], by simp [preparedFinding], fun text => ?_⟩
    constructor
    · intro same
      exact ⟨executable, reason, rfl, (congrArg Finding.message same).symm⟩
    · rintro ⟨executable', reason', failed, rfl⟩
      rw [Except.error.inj failed]
      rfl

end Checker

end OwnerBuild
