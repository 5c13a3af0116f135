/-
# OwnerBuild.Checker -- checking a file by building its owners

A checker is a name, the settings of a build tool and a diagnostic format. To
check a file it finds the workspace around the file, asks the build tool for the
rules that own it, builds them, and reads the diagnostics in what the build
wrote. There is nothing to check when no workspace encloses the file or no rule
owns it.

`prepare` is the part before the build; `command` shows the build that a check
would start without starting it; `report` retells the lookups for a reader.
-/

import OwnerBuild.Action
import OwnerBuild.Text.Utf8

namespace OwnerBuild

/-! ## Build commands -/

namespace Build

/-- The flags that keep a build's own messages out of its output. -/
def quietFlags : List String :=
  ["--ui_event_filters=-info,-debug,-warning,-stderr", "--noshow_progress"]

/-- The command that builds some targets, which come last. There is none without
targets. -/
def command (settings : Settings) (format : Format) (targets : List String) :
    Except Failure (List String) :=
  if targets = [] then .error .noTargets
  else .ok (settings.executable :: "build" :: quietFlags ++ format.buildFlag ::
    settings.buildFlags ++ targets)

end Build

/-! ## Owners -/

/-- The text of what a program wrote. -/
def writtenText (bytes : List UInt8) : List Char := Text.decode bytes

/-- Asks for the rules that own a file, given by its name inside the workspace. A
name that cannot be quoted is not asked about and has no owners. The status of the
query does not count, only what it printed. -/
def owners (settings : Settings) (root : Path) (path : String) : Action (List String) := do
  if Query.quoteWord? path.toList = none then
    Action.note (.unquotable path)
    return []
  else
    let command ← Action.ofExcept ((Query.command settings path).mapError .unquotable)
    Action.note (.querying command root)
    match ← Action.start ⟨command, root⟩ with
    | .refused e => Action.fail (.launch settings.executable e.text)
    | .finished output _ status =>
      let targets := (Query.labels (writtenText output)).map String.ofList
      if targets = [] then Action.note (.noOwner path status)
      return targets

/-! ## Checkers -/

/-- How files are checked. -/
structure Checker where
  name : String
  settings : Settings
  format : Format
  deriving DecidableEq, Repr

/-- The name of the checker that commands about a single checker use. -/
def Checker.standardName : String := "bazel"

/-- The workspace and the targets that a check would build. -/
structure Prepared where
  workspace : Workspace
  targets : List String
  deriving DecidableEq

/-- What came of a build. -/
structure CheckResult where
  path : Path
  workspace : Workspace
  targets : List String
  command : List String
  status : Int
  diagnostics : List Diagnostic
  deriving DecidableEq

/-- Whether a check found an error. -/
def CheckResult.hasErrors (r : CheckResult) : Bool := Diagnostic.anyError r.diagnostics

/-- How a lookup went. -/
inductive Verdict where
  | success
  | warning
  | error
  deriving DecidableEq, Repr

/-- The word for a verdict. -/
def Verdict.text : Verdict → String
  | .success => "success"
  | .warning => "warning"
  | .error => "error"

/-- A line of a report. -/
structure Finding where
  label : String
  message : String
  verdict : Verdict
  deriving DecidableEq, Repr

namespace Checker

/-- The workspace around a path, as an action. -/
def workspaceOf (path : Path) : Action (Option Workspace) := Action.look (·.workspace? path)

/-- Whether the checker is enabled for a path: any path inside a workspace. -/
def enabled (v : View) (path : Path) : Except LookupError Bool :=
  (v.workspace? path).map (·.isSome)

/-- Where the commands for a path are run. -/
def workingDirectory (path : Path) : Action (Option Path) := do
  return (← workspaceOf path).map (·.root)

/-- The name of a path inside a workspace, as an action. -/
def nameInside (w : Workspace) (path : Path) : Action String := fun world =>
  ⟨(world.view.relative w path).mapError RelativeError.toFailure, world.view.files, []⟩

/-- The owners of a path in its workspace. -/
def ownersOf (c : Checker) (w : Workspace) (path : Path) : Action (List String) := do
  owners c.settings w.root (← nameInside w path)

/-- What a check of a path would build, if anything. -/
def prepare (c : Checker) (path : Path) : Action (Option Prepared) := do
  match ← workspaceOf path with
  | none => return none
  | some workspace =>
    let targets ← c.ownersOf workspace path
    return if targets = [] then none else some ⟨workspace, targets⟩

/-- The build that a check of a path would start, if any. -/
def command (c : Checker) (path : Path) : Action (Option (List String)) := do
  match ← c.prepare path with
  | none => return none
  | some p => return some (← Action.ofExcept (Build.command c.settings c.format p.targets))

/-! ## Checking -/

/-- What a build wrote: its streams one after the other, each if it has any text,
with a line end between them. -/
def joinStreams (output errors : List Char) : List Char :=
  Text.joinWith ['\n'] ([output, errors].filter (· != []))

/-- Reads the diagnostics of a finished build. -/
def conclude (path : Path) (p : Prepared) (command : List String)
    (output errors : List UInt8) (status : Int) : Action CheckResult := do
  let records := Format.records (joinStreams (writtenText output) (writtenText errors))
  let diagnostics := Format.parse p.workspace.root records
  Action.forEach (fun record => Action.note (.unreadable record)) (Format.unreadable records)
  Action.note (.built p.targets status diagnostics.length)
  return { path, workspace := p.workspace, targets := p.targets, command, status, diagnostics }

/-- Builds what was prepared for a path. -/
def build (c : Checker) (path : Path) (p : Prepared) : Action CheckResult := do
  let command ← Action.ofExcept (Build.command c.settings c.format p.targets)
  Action.note (.building command p.workspace.root)
  match ← Action.start ⟨command, p.workspace.root⟩ with
  | .refused e => Action.fail (.launch c.settings.executable e.text)
  | .finished output errors status => conclude path p command output errors status

/-- Checks a path; there is no result when there is nothing to check. -/
def check (c : Checker) (path : Path) : Action (Option CheckResult) := do
  match ← c.prepare path with
  | none =>
    Action.note (.nothingToCheck path)
    return none
  | some p => return some (← c.build path p)

/-! ## Reports -/

/-- The label of the finding on the workspace. -/
def workspaceLabel : String := "Bazel workspace"

/-- The label of the finding on the targets. -/
def targetsLabel : String := "Bazel targets"

/-- What is reported of something that was not found. -/
def notFound : String := "not found"

/-- The finding on the targets of a lookup. -/
def targetsFinding : Except Failure (List String) → Finding
  | .error e => ⟨targetsLabel, e.message, .error⟩
  | .ok [] => ⟨targetsLabel, notFound, .warning⟩
  | .ok targets => ⟨targetsLabel, String.intercalate ", " targets, .success⟩

/-- Looks a path up and reports what was found. -/
def report (c : Checker) (path : Path) : Action (List Finding) := do
  match ← workspaceOf path with
  | none => return [⟨workspaceLabel, notFound, .error⟩, ⟨targetsLabel, notFound, .warning⟩]
  | some workspace =>
    let found ← (c.ownersOf workspace path).orLaunchFailure
    return [⟨workspaceLabel, workspace.root.text, .success⟩, targetsFinding found]

end Checker

end OwnerBuild
