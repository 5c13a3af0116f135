/-
# OwnerBuild.Watch.Changes -- changes of files

Changes arrive in batches. Of a batch only the paths count that still exist and
whose suffix, in small letters, is watched for; they are taken as a set, so that
repetitions and different spellings of one path make no difference. Each path of
the set is checked on its own, in the order of paths: a checker that could not be
run is told and does not keep the others from running.
-/

import OwnerBuild.Cli.Report

namespace OwnerBuild.Watch

open Console (Item inStyle)
open Markup (EmojiTable escapeString)

/-! ## Batches -/

/-- What happened to a file. -/
inductive ChangeKind where
  | added
  | modified
  | deleted
  deriving DecidableEq, Repr

/-- A change of a file. -/
structure Change where
  kind : ChangeKind
  path : String
  deriving DecidableEq, Repr

/-- Changes that are reported together. -/
abbrev Batch := List Change

/-- Whether a path has one of some suffixes, which are given in small letters. -/
def isWatched (extensions : List String) (path : Path) : Bool :=
  extensions.contains (Text.lowerString path.suffix)

/-- The set of paths that a batch asks to check. -/
def changedPaths (extensions : List String) (batch : Batch) : List Path :=
  Path.sortedSet (((batch.filter (·.kind ≠ .deleted)).map fun c => Path.ofText c.path).filter
    (isWatched extensions))

/-! ## Checking what changed -/

variable [EmojiTable]

/-- The line above the diagnostics of a path. -/
def headerLine (path : Path) (count : Nat) : Item :=
  .markup (inStyle "bold" (escapeString path.text) ++ ": " ++ toString count ++ " diagnostic(s)")

/-- The line of a diagnostic. -/
def diagnosticLine (d : Diagnostic) : Item :=
  .plain ("  " ++ d.file.text ++ ":" ++ toString d.line ++ ":" ++ toString d.column ++ ": " ++
    d.severity.text ++ ": " ++ d.message)

/-- The line for a path that no checker had anything to say about. -/
def nothingLine (path : Path) : Item :=
  .markup (inStyle "yellow" (escapeString path.text ++ ": nothing to check"))

/-- Prints the result of a check. -/
def printResult (path : Path) (result : CheckResult) : Action Unit := do
  Action.print (headerLine path result.diagnostics.length)
  Action.forEach (fun d => Action.print (diagnosticLine d)) result.diagnostics

/-- Checks a path with some checkers, each of them whatever came of the others, and
says whether anything was told. -/
def tellEach (path : Path) : List Checker → Action Bool
  | [] => return false
  | c :: rest => do
    let told ← match ← (c.check path).orLaunchFailure with
      | .error e => do
        Action.print (Cli.launchLine e)
        pure true
      | .ok none => pure false
      | .ok (some result) => do
        printResult path result
        pure true
    let others ← tellEach path rest
    return told || others

/-- Checks a changed path with every checker that applies to it. -/
def checkChangedPath (r : Registry) (path : Path) : Action Unit := do
  let told ← tellEach path (← r.applicableTo path)
  if !told then Action.print (nothingLine path)

/-- Checks a set of changed paths, in the order of paths. -/
def checkChanged (r : Registry) (paths : List Path) : Action Unit :=
  Action.forEach (checkChangedPath r) (Path.sortedSet paths)

end OwnerBuild.Watch
