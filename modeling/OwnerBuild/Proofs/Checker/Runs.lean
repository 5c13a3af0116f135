/-
# OwnerBuild.Proofs.Checker.Runs -- how the lookups and the build of a check go

A world in which programs answer by their command and directory alone leaves the
file tree as it is, so that an action in it is settled by its result and its events.
For such worlds this file says once, function by function, what each step of a check
can come to: `PrepareRun` lists the five ways of the lookups, `CheckRun` the four
ways of the whole check, each with the conditions it comes about under. Everything
else about traces is a case analysis on these two relations; nothing after this file
opens the actions again.

Not covered are launchers that change files or that have no answer to a start, and
paths for which the search for a workspace itself fails.
-/

import OwnerBuild.Checker
import OwnerBuild.Proofs.Action.Results
import OwnerBuild.Proofs.Workspace.Inside

namespace OwnerBuild

/-! ## Worlds that answer -/

/-- A world in which programs answer by their start alone. -/
def World.answering (v : View) (answer : Start → Answer) : World := ⟨v, .ofAnswers answer⟩

/-- The start that an event is, if it is one. -/
def Event.start? : Event → Option Start
  | .started s => some s
  | _ => none

/-- What an outcome shows to have been started, in order. -/
def Outcome.starts {α : Type} (o : Outcome α) : List Start := o.events.filterMap Event.start?

/-- The item that an event prints, if it prints one. -/
def Event.item? : Event → Option Console.Item
  | .printed i => some i
  | _ => none

/-- What an outcome shows to have been printed, in order. -/
def Outcome.printed {α : Type} (o : Outcome α) : List Console.Item :=
  o.events.filterMap Event.item?

@[simp] theorem Event.start?_started (s : Start) : (Event.started s).start? = some s := rfl

@[simp] theorem Event.start?_noted (n : Log.Note) : (Event.noted n).start? = none := rfl

@[simp] theorem Event.start?_printed (i : Console.Item) : (Event.printed i).start? = none := rfl

@[simp] theorem Event.item?_started (s : Start) : (Event.started s).item? = none := rfl

@[simp] theorem Event.item?_noted (n : Log.Note) : (Event.noted n).item? = none := rfl

@[simp] theorem Event.item?_printed (i : Console.Item) : (Event.printed i).item? = some i := rfl

namespace Action

variable {v : View} {answer : Start → Answer}

/-- A start is answered, and seen. -/
theorem start_answering (s : Start) :
    start s (.answering v answer) = ⟨.ok (answer s), v.files, [.started s]⟩ := rfl

theorem ofExcept_ok {α : Type} (x : α) : ofExcept (.ok x) = Action.pure x := rfl

end Action

/-! ## Asking for owners -/

namespace Query

/-- A path has a query command exactly when it can be quoted. -/
theorem command_eq_error_iff {settings : Settings} {path : String} {e : Unquotable} :
    command settings path = .error e ↔ quoteWord? path.toList = none ∧ e = ⟨path⟩ := by
  unfold command owners
  cases quoteWord? path.toList with
  | none => simp [Except.map, eq_comm]
  | some word => simp [Except.map]

theorem exists_command (settings : Settings) {path : String}
    (h : quoteWord? path.toList ≠ none) : ∃ query, command settings path = .ok query := by
  cases asked : command settings path with
  | error e => exact absurd (command_eq_error_iff.mp asked).1 h
  | ok query => exact ⟨query, rfl⟩

end Query

/-- The labels in what a query wrote, as texts. -/
def ownersIn (output : List UInt8) : List String :=
  (Query.labels (writtenText output)).map String.ofList

/-- What is seen of a query that is asked in a folder. -/
def queryEvents (query : List String) (root : Path) : List Event :=
  [.noted (.querying query root), .started ⟨query, root⟩]

section Owners

variable {settings : Settings} {root : Path} {name : String} {v : View} {answer : Start → Answer}

theorem owners_unquotable (h : Query.quoteWord? name.toList = none) :
    owners settings root name (.answering v answer) =
      ⟨.ok [], v.files, [.noted (.unquotable name)]⟩ := by
  unfold owners
  rw [if_pos h]
  rfl

/-- A name that has a query can be quoted, and what is left is to run the query. -/
theorem owners_of_command {query : List String} (asked : Query.command settings name = .ok query) :
    owners settings root name = do
      Action.note (.querying query root)
      match ← Action.start ⟨query, root⟩ with
      | .refused e => Action.fail (.launch settings.executable e.text)
      | .finished output _ status =>
        if ownersIn output = [] then Action.note (.noOwner name status)
        return ownersIn output := by
  have quotable : Query.quoteWord? name.toList ≠ none := by
    intro none
    rw [Query.command_eq_error_iff.mpr ⟨none, rfl⟩] at asked
    cases asked
  unfold owners
  rw [if_neg quotable, asked]
  exact Action.pure_bind _ _

theorem owners_refused {query : List String} {e : LaunchError}
    (asked : Query.command settings name = .ok query) (h : answer ⟨query, root⟩ = .refused e) :
    owners settings root name (.answering v answer) =
      ⟨.error (.launch settings.executable e.text), v.files, queryEvents query root⟩ := by
  rw [owners_of_command asked, Action.bind_undisturbed (Action.note_run _),
    Action.bind_undisturbed (Action.start_answering _), h]
  rfl

theorem owners_finished {query : List String} {output errors : List UInt8} {status : Int}
    (asked : Query.command settings name = .ok query)
    (h : answer ⟨query, root⟩ = .finished output errors status) :
    owners settings root name (.answering v answer) =
      ⟨.ok (ownersIn output), v.files, queryEvents query root ++
        if ownersIn output = [] then [.noted (.noOwner name status)] else []⟩ := by
  rw [owners_of_command asked, Action.bind_undisturbed (Action.note_run _),
    Action.bind_undisturbed (Action.start_answering _), h]
  by_cases unowned : ownersIn output = []
  · simp only [unowned, if_true]
    rw [Action.bind_undisturbed (Action.note_run _)]
    rfl
  · simp only [unowned, if_false]
    rfl

end Owners

namespace Checker

/-! ## The lookups before a build -/

section Prepare

variable (c : Checker) (v : View) (answer : Start → Answer) (path : Path)

/-- How the lookups for a path go that has been searched for a workspace: there is
none, or the path cannot be quoted, or the query cannot be run, or it names no
rule, or it names some. -/
inductive PrepareRun : Option Workspace → Outcome (Option Prepared) → Prop
  | outside : PrepareRun none ⟨.ok none, v.files, []⟩
  | unquotable {w : Workspace} {name : String} (named : v.relative w path = .ok name)
      (unquotable : Query.quoteWord? name.toList = none) :
      PrepareRun (some w) ⟨.ok none, v.files, [.noted (.unquotable name)]⟩
  | refused {w : Workspace} {name : String} {query : List String} {e : LaunchError}
      (named : v.relative w path = .ok name) (asked : Query.command c.settings name = .ok query)
      (refusal : answer ⟨query, w.root⟩ = .refused e) :
      PrepareRun (some w)
        ⟨.error (.launch c.settings.executable e.text), v.files, queryEvents query w.root⟩
  | unowned {w : Workspace} {name : String} {query : List String} {output errors : List UInt8}
      {status : Int} (named : v.relative w path = .ok name)
      (asked : Query.command c.settings name = .ok query)
      (finished : answer ⟨query, w.root⟩ = .finished output errors status)
      (unowned : ownersIn output = []) :
      PrepareRun (some w)
        ⟨.ok none, v.files, queryEvents query w.root ++ [.noted (.noOwner name status)]⟩
  | owned {w : Workspace} {name : String} {query : List String} {output errors : List UInt8}
      {status : Int} (named : v.relative w path = .ok name)
      (asked : Query.command c.settings name = .ok query)
      (finished : answer ⟨query, w.root⟩ = .finished output errors status)
      (owned : ownersIn output ≠ []) :
      PrepareRun (some w)
        ⟨.ok (some ⟨w, ownersIn output⟩), v.files, queryEvents query w.root⟩

variable {c v answer path}

/-- Looking for the workspace leaves the files alone, whatever the launcher. -/
theorem workspaceOf_run (w : World) {found : Option Workspace}
    (located : w.view.workspace? path = .ok found) :
    workspaceOf path w = ⟨.ok found, w.view.files, []⟩ := by
  show (⟨(w.view.workspace? path).mapError .lookup, w.view.files, []⟩ : Outcome _) = _
  rw [located]
  rfl

/-- The owners of a path are asked for under its name inside the workspace. -/
theorem ownersOf_run (w : World) {workspace : Workspace} {name : String}
    (named : w.view.relative workspace path = .ok name) :
    c.ownersOf workspace path w = owners c.settings workspace.root name w := by
  have inside : nameInside workspace path w = ⟨.ok name, w.view.files, []⟩ := by
    show (⟨(w.view.relative workspace path).mapError _, w.view.files, []⟩ : Outcome _) = _
    rw [named]
    rfl
  unfold ownersOf
  rw [Action.bind_undisturbed inside]
  rfl

/-- What is prepared once the owners are known. -/
theorem prepare_answering {w : Workspace} {targets : List String} {events : List Event}
    (located : v.workspace? path = .ok (some w))
    (asked : c.ownersOf w path (.answering v answer) = ⟨.ok targets, v.files, events⟩) :
    c.prepare path (.answering v answer) =
      ⟨.ok (if targets = [] then none else some ⟨w, targets⟩), v.files, events⟩ := by
  unfold prepare
  rw [Action.bind_undisturbed (workspaceOf_run (.answering v answer) located)]
  dsimp only
  rw [Action.bind_pure_run asked]
  rfl

/-- **The lookups go in one of five ways.** -/
theorem prepare_run {found : Option Workspace} (located : v.workspace? path = .ok found) :
    PrepareRun c v answer path found (c.prepare path (.answering v answer)) := by
  cases found with
  | none =>
    have run : c.prepare path (.answering v answer) = ⟨.ok none, v.files, []⟩ := by
      unfold prepare
      rw [Action.bind_undisturbed (workspaceOf_run (.answering v answer) located)]
      rfl
    rw [run]
    exact .outside
  | some w =>
    obtain ⟨name, named⟩ := View.relative_of_workspace? located
    have asking : c.ownersOf w path (.answering v answer) =
        owners c.settings w.root name (.answering v answer) := ownersOf_run _ named
    by_cases quotable : Query.quoteWord? name.toList = none
    · rw [prepare_answering located (asking.trans (owners_unquotable quotable))]
      exact .unquotable named quotable
    obtain ⟨query, asked⟩ := Query.exists_command c.settings quotable
    cases answered : answer ⟨query, w.root⟩ with
    | refused e =>
      have run : c.prepare path (.answering v answer) =
          ⟨.error (.launch c.settings.executable e.text), v.files, queryEvents query w.root⟩ := by
        unfold prepare
        rw [Action.bind_undisturbed (workspaceOf_run (.answering v answer) located)]
        dsimp only
        rw [Action.bind_failed (asking.trans (owners_refused asked answered))]
        rfl
      rw [run]
      exact .refused named asked answered
    | finished output errors status =>
      rw [prepare_answering located (asking.trans (owners_finished asked answered))]
      by_cases none : ownersIn output = []
      · rw [if_pos none, if_pos none]
        exact .unowned named asked answered none
      · rw [if_neg none, if_neg none, List.append_nil]
        exact .owned named asked answered none

end Prepare

/-! ## The check -/

/-- What a check says of a finished build. -/
def resultOf (path : Path) (p : Prepared) (command : List String) (output errors : List UInt8)
    (status : Int) : CheckResult :=
  { path, workspace := p.workspace, targets := p.targets, command, status
    diagnostics := Format.parse p.workspace.root
      (Format.records (joinStreams (writtenText output) (writtenText errors))) }

/-- What is noted of a finished build: the records that could not be read, and how
the build ended. -/
def resultEvents (r : CheckResult) (output errors : List UInt8) : List Event :=
  (Format.unreadable (Format.records (joinStreams (writtenText output) (writtenText errors)))).map
    (fun record => .noted (.unreadable record)) ++
  [.noted (.built r.targets r.status r.diagnostics.length)]

/-- What is seen of a build that is started in a folder. -/
def buildEvents (command : List String) (root : Path) : List Event :=
  [.noted (.building command root), .started ⟨command, root⟩]

@[simp] theorem filterMap_queryEvents (query : List String) (root : Path) :
    (queryEvents query root).filterMap Event.start? = [⟨query, root⟩] := rfl

@[simp] theorem filterMap_buildEvents (command : List String) (root : Path) :
    (buildEvents command root).filterMap Event.start? = [⟨command, root⟩] := rfl

/-- Reading a build's output starts nothing. -/
@[simp] theorem filterMap_resultEvents (r : CheckResult) (output errors : List UInt8) :
    (resultEvents r output errors).filterMap Event.start? = [] := by
  simp [resultEvents, List.filterMap_map, Function.comp_def]

section Check

variable (c : Checker) (v : View) (answer : Start → Answer) (path : Path)

/-- How a check goes: there is nothing to build, or the query could not be run, or
the build could not be run, or it has run. -/
inductive CheckRun (found : Option Workspace) : Outcome (Option CheckResult) → Prop
  | idle {events : List Event}
      (lookups : PrepareRun c v answer path found ⟨.ok none, v.files, events⟩) :
      CheckRun found ⟨.ok none, v.files, events ++ [.noted (.nothingToCheck path)]⟩
  | failed {e : Failure} {events : List Event}
      (lookups : PrepareRun c v answer path found ⟨.error e, v.files, events⟩) :
      CheckRun found ⟨.error e, v.files, events⟩
  | refused {p : Prepared} {command : List String} {e : LaunchError} {events : List Event}
      (lookups : PrepareRun c v answer path found ⟨.ok (some p), v.files, events⟩)
      (built : Build.command c.settings c.format p.targets = .ok command)
      (refusal : answer ⟨command, p.workspace.root⟩ = .refused e) :
      CheckRun found ⟨.error (.launch c.settings.executable e.text), v.files,
        events ++ buildEvents command p.workspace.root⟩
  | finished {p : Prepared} {command : List String} {output errors : List UInt8} {status : Int}
      {events : List Event}
      (lookups : PrepareRun c v answer path found ⟨.ok (some p), v.files, events⟩)
      (built : Build.command c.settings c.format p.targets = .ok command)
      (finished : answer ⟨command, p.workspace.root⟩ = .finished output errors status) :
      CheckRun found ⟨.ok (some (resultOf path p command output errors status)), v.files,
        events ++ (buildEvents command p.workspace.root ++
          resultEvents (resultOf path p command output errors status) output errors)⟩

variable {c v answer path}

theorem PrepareRun.files_eq {found : Option Workspace} {o : Outcome (Option Prepared)}
    (h : PrepareRun c v answer path found o) : o.files = v.files := by
  cases h <;> rfl

/-- What has been prepared can be built: there are targets. -/
theorem PrepareRun.exists_build {found : Option Workspace} {p : Prepared} {events : List Event}
    (h : PrepareRun c v answer path found ⟨.ok (some p), v.files, events⟩) :
    ∃ command, Build.command c.settings c.format p.targets = .ok command := by
  cases h with
  | owned _ _ _ owned => exact ⟨_, if_neg owned⟩

/-- Reading what a build wrote has a result in every world. -/
theorem conclude_run (p : Prepared) (command : List String) (output errors : List UInt8)
    (status : Int) (w : World) :
    conclude path p command output errors status w =
      ⟨.ok (resultOf path p command output errors status), w.view.files,
        resultEvents (resultOf path p command output errors status) output errors⟩ := by
  unfold conclude
  rw [Action.bind_undisturbed (Action.forEach_note_run _ _),
    Action.bind_undisturbed (Action.note_run _)]
  rfl

theorem build_refused {p : Prepared} {command : List String} {e : LaunchError}
    (built : Build.command c.settings c.format p.targets = .ok command)
    (h : answer ⟨command, p.workspace.root⟩ = .refused e) :
    c.build path p (.answering v answer) =
      ⟨.error (.launch c.settings.executable e.text), v.files,
        buildEvents command p.workspace.root⟩ := by
  unfold build
  rw [built, Action.ofExcept_ok, Action.pure_bind,
    Action.bind_undisturbed (Action.note_run _),
    Action.bind_undisturbed (Action.start_answering _), h]
  rfl

theorem build_finished {p : Prepared} {command : List String} {output errors : List UInt8}
    {status : Int} (built : Build.command c.settings c.format p.targets = .ok command)
    (h : answer ⟨command, p.workspace.root⟩ = .finished output errors status) :
    c.build path p (.answering v answer) =
      ⟨.ok (resultOf path p command output errors status), v.files,
        buildEvents command p.workspace.root ++
          resultEvents (resultOf path p command output errors status) output errors⟩ := by
  unfold build
  rw [built, Action.ofExcept_ok, Action.pure_bind,
    Action.bind_undisturbed (Action.note_run _),
    Action.bind_undisturbed (Action.start_answering _), h]
  dsimp only
  rw [conclude_run]
  rfl

/-- The lookups print nothing. -/
theorem PrepareRun.printed_eq_nil {found : Option Workspace} {o : Outcome (Option Prepared)}
    (h : PrepareRun c v answer path found o) : o.printed = [] := by
  cases h <;> simp [Outcome.printed, queryEvents, List.filterMap_cons]

/-! Each way of the lookups, and of the build behind them, is a way of the check. -/

section Ways

variable {p : Prepared} {command : List String} {events : List Event}

theorem check_idle (prepared : c.prepare path (.answering v answer) = ⟨.ok none, v.files, events⟩) :
    c.check path (.answering v answer) =
      ⟨.ok none, v.files, events ++ [.noted (.nothingToCheck path)]⟩ := by
  unfold check
  rw [Action.bind_undisturbed prepared]
  dsimp only
  rw [Action.bind_undisturbed (Action.note_run _)]
  rfl

theorem check_failed {e : Failure}
    (prepared : c.prepare path (.answering v answer) = ⟨.error e, v.files, events⟩) :
    c.check path (.answering v answer) = ⟨.error e, v.files, events⟩ := by
  unfold check
  exact Action.bind_failed prepared

theorem check_refused {e : LaunchError}
    (prepared : c.prepare path (.answering v answer) = ⟨.ok (some p), v.files, events⟩)
    (built : Build.command c.settings c.format p.targets = .ok command)
    (refusal : answer ⟨command, p.workspace.root⟩ = .refused e) :
    c.check path (.answering v answer) =
      ⟨.error (.launch c.settings.executable e.text), v.files,
        events ++ buildEvents command p.workspace.root⟩ := by
  unfold check
  rw [Action.bind_undisturbed prepared]
  dsimp only
  rw [Action.bind_failed (build_refused built refusal)]

theorem check_finished {output errors : List UInt8} {status : Int}
    (prepared : c.prepare path (.answering v answer) = ⟨.ok (some p), v.files, events⟩)
    (built : Build.command c.settings c.format p.targets = .ok command)
    (finished : answer ⟨command, p.workspace.root⟩ = .finished output errors status) :
    c.check path (.answering v answer) =
      ⟨.ok (some (resultOf path p command output errors status)), v.files,
        events ++ (buildEvents command p.workspace.root ++
          resultEvents (resultOf path p command output errors status) output errors)⟩ := by
  unfold check
  rw [Action.bind_undisturbed prepared]
  dsimp only
  rw [Action.bind_pure_run (build_finished built finished)]
  rfl

end Ways

/-- **A check goes in one of four ways.** -/
theorem check_run {found : Option Workspace} (located : v.workspace? path = .ok found) :
    CheckRun c v answer path found (c.check path (.answering v answer)) := by
  have lookups : PrepareRun c v answer path found (c.prepare path (.answering v answer)) :=
    prepare_run located
  have files := lookups.files_eq
  generalize prepared : c.prepare path (.answering v answer) = o at lookups files
  obtain ⟨result, _, events⟩ := o
  obtain rfl : _ = v.files := files
  cases result with
  | error e =>
    rw [check_failed prepared]
    exact .failed lookups
  | ok preparation =>
    cases preparation with
    | none =>
      rw [check_idle prepared]
      exact .idle lookups
    | some p =>
      -- targets that were prepared can be built, so only the answer to the build is open
      obtain ⟨command, built⟩ := lookups.exists_build
      cases answered : answer ⟨command, p.workspace.root⟩ with
      | refused e =>
        rw [check_refused prepared built answered]
        exact .refused lookups built answered
      | finished output errors status =>
        rw [check_finished prepared built answered]
        exact .finished lookups built answered

/-- A check prints nothing: what it found is for others to tell. -/
theorem CheckRun.printed_eq_nil {found : Option Workspace} {o : Outcome (Option CheckResult)}
    (h : CheckRun c v answer path found o) : o.printed = [] := by
  have lookups : ∀ {result events}, PrepareRun c v answer path found ⟨result, v.files, events⟩ →
      events.filterMap Event.item? = [] := fun run => run.printed_eq_nil
  have results : ∀ r output errors,
      (resultEvents r output errors).filterMap Event.item? = [] := by
    simp [resultEvents, List.filterMap_map, Function.comp_def, List.filterMap_cons]
  cases h with
  | idle run => simp [Outcome.printed, lookups run, List.filterMap_cons]
  | failed run => simp [Outcome.printed, lookups run]
  | refused run => simp [Outcome.printed, lookups run, buildEvents, List.filterMap_cons]
  | finished run => simp [Outcome.printed, lookups run, results, buildEvents, List.filterMap_cons]

end Check

end Checker

end OwnerBuild
