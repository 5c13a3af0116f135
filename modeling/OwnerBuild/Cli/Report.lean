/-
# OwnerBuild.Cli.Report -- the commands about a single file

What the commands about a file print, and the status they exit with. A program
that could not be run is told in one red line and makes the command exit with 1,
as do a missing workspace, an error among the diagnostics, and an error among the
findings. Texts that come from outside are escaped before they become markup.
-/

import OwnerBuild.Registry

namespace OwnerBuild

/-! ## Checking with every checker that applies -/

/-- Checks a path with some checkers, in order; those with nothing to check leave
no result. The first failure ends it. -/
def checkWith (path : Path) : List Checker → Action (List (Checker × CheckResult))
  | [] => return []
  | c :: rest => do
    let result ← c.check path
    let others ← checkWith path rest
    return match result with
      | none => others
      | some r => (c, r) :: others

/-- Checks a path with every checker that applies to it. -/
def Registry.checkAll (r : Registry) (path : Path) : Action (List (Checker × CheckResult)) := do
  checkWith path (← r.applicableTo path)

namespace Cli

open Console (Item inStyle)
open Markup (EmojiTable escapeString)

variable [EmojiTable]

/-- The status of a command that ran into something bad, or did not. -/
def exitStatus (bad : Bool) : Nat := if bad then 1 else 0

/-- Tells why a program could not be run. -/
def launchLine (e : Failure) : Item := .markup (inStyle "red" (escapeString e.message))

/-- Goes on with the result of an action, or tells that a program could not be run. -/
def orTell {α : Type} (a : Action α) (next : α → Action Nat) : Action Nat := do
  match ← a.orLaunchFailure with
  | .ok x => next x
  | .error e =>
    Action.print (launchLine e)
    return 1

/-! ## Lookups -/

/-- Prints the root of the workspace around a file. -/
def root (path : Path) : Action Nat := do
  match ← Checker.workspaceOf path with
  | none =>
    Action.print (.markup (inStyle "red"
      ("No Bazel workspace encloses " ++ escapeString path.text ++ ".")))
    return 1
  | some w =>
    Action.print (.plain w.root.text)
    return 0

/-- Prints the rules that own a file, one a line. -/
def targets (r : Registry) (path : Path) : Action Nat := do
  let c ← Action.ofExcept (r.get Checker.standardName)
  orTell (c.prepare path) fun
    | none => do
      Action.print (.markup (inStyle "yellow" "No targets found."))
      return 0
    | some p => do
      Action.forEach (fun target => Action.print (.plain target)) p.targets
      return 0

/-- How a missing directory is shown. -/
def directoryText : Option Path → String
  | some d => d.text
  | none => "None"

/-- Prints the build that a check would start. -/
def command (r : Registry) (path : Path) : Action Nat := do
  let c ← Action.ofExcept (r.get Checker.standardName)
  orTell (c.command path) fun
    | none => do
      Action.print (.markup (inStyle "yellow" "Nothing to build."))
      return 0
    | some command => do
      let directory ← Checker.workingDirectory path
      Action.print (.plain ("cd " ++ directoryText directory))
      Action.print (.plain (String.intercalate " " command))
      return 0

/-! ## Checking -/

/-- The style of a severity. -/
def severityStyle : Severity → String
  | .error => "red"
  | .warning => "yellow"
  | .info => "cyan"

/-- The row of a diagnostic. -/
def diagnosticRow (d : Diagnostic) : List String :=
  let message := match d.explanation? with
    | none => d.message
    | some explanation => d.message ++ "\n" ++ explanation
  [escapeString d.file.text, toString d.line, toString d.column,
    inStyle (severityStyle d.severity) d.severity.text, escapeString message]

/-- The line below the table of a check. -/
def summaryLine (results : List CheckResult) : String :=
  "(" ++ toString (results.flatMap (·.diagnostics)).length ++ " diagnostics, build exit status " ++
    String.intercalate ", " (results.map fun r => toString r.status) ++ ")"

/-- Prints the diagnostics of some results as a table. -/
def printResults (results : List CheckResult) : Action Nat := do
  Action.print (.markupTable ["file", "line", "column", "severity", "message"]
    ((results.flatMap (·.diagnostics)).map diagnosticRow))
  Action.print (.markup (summaryLine results))
  return exitStatus (results.any (·.hasErrors))

/-- Checks a file and prints the diagnostics. -/
def check (r : Registry) (path : Path) : Action Nat :=
  orTell (r.checkAll path) fun
    | [] => do
      Action.print (.markup (inStyle "yellow" "Nothing to check."))
      return 0
    | results => printResults (results.map (·.2))

/-! ## Reports -/

/-- The style of a verdict. -/
def verdictStyle : Verdict → String
  | .success => "green"
  | .warning => "yellow"
  | .error => "red"

/-- The row of a finding. -/
def findingRow (f : Finding) : List String :=
  [f.label, inStyle (verdictStyle f.verdict) f.verdict.text, escapeString f.message]

/-- Prints whether the workspace and the owners of a file can be found. -/
def verify (r : Registry) (path : Path) : Action Nat := do
  let c ← Action.ofExcept (r.get Checker.standardName)
  let findings ← c.report path
  Action.print (.markupTable ["check", "status", "message"] (findings.map findingRow))
  return exitStatus (findings.any (·.verdict = .error))

end Cli

end OwnerBuild
