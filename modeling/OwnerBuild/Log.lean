/-
# OwnerBuild.Log -- what is noted while the program runs

Every note is a value that says what happened; its level, the part of the program
that makes it and its wording are functions of it.
-/

import OwnerBuild.Path
import OwnerBuild.Text.Quoted

namespace OwnerBuild.Log

/-- How important a note is, the least important level first. -/
inductive Level where
  | debug
  | info
  | warning
  | error
  deriving DecidableEq, Repr

/-- The word for a level. -/
def Level.text : Level → String
  | .debug => "DEBUG"
  | .info => "INFO"
  | .warning => "WARNING"
  | .error => "ERROR"

/-- The rank of a level. -/
def Level.rank : Level → Nat
  | .debug => 0
  | .info => 1
  | .warning => 2
  | .error => 3

/-- The parts of the program that make notes. -/
inductive Source where
  | targets
  | checker
  | diagnostics
  | watcher
  deriving DecidableEq, Repr

/-- The name that a note gives for its source. -/
def Source.text : Source → String
  | .targets => "bazel_check.core.targets"
  | .checker => "bazel_check.checker"
  | .diagnostics => "bazel_check.diagnostics.rustc"
  | .watcher => "bazel_check.watcher.watchfiles_adapter"

/-- What can be noted. -/
inductive Note where
  | unquotable (path : String)
  | querying (command : List String) (root : Path)
  | noOwner (path : String) (status : Int)
  | registered (name : String)
  | nothingToCheck (path : Path)
  | building (command : List String) (root : Path)
  | built (targets : List String) (status : Int) (count : Nat)
  | unreadable (record : List Char)
  | watcherStarted (directory : Path)
  | watcherStopped (directory : Path)
  | changed (count : Nat)
  | callbackFailed
  deriving DecidableEq

namespace Note

/-- The level of a note. -/
def level : Note → Level
  | .unquotable _ => .warning
  | .querying .. | .registered _ | .building .. | .unreadable _ => .debug
  | .callbackFailed => .error
  | _ => .info

/-- The source of a note. -/
def source : Note → Source
  | .unquotable _ | .querying .. | .noOwner .. => .targets
  | .registered _ | .nothingToCheck _ | .building .. | .built .. => .checker
  | .unreadable _ => .diagnostics
  | _ => .watcher

/-- The characters of a record that are noted. -/
def recordExcerpt : Nat := 80

/-- The wording of a note. -/
def text : Note → String
  | .unquotable path => "Skipping target query for " ++ path ++ ": path cannot be quoted"
  | .querying command root | .building command root =>
    "Running " ++ Text.quoteList command ++ " in " ++ root.text
  | .noOwner path status =>
    "No rule owns " ++ path ++ " (query exit status " ++ toString status ++ ")"
  | .registered name => "Registered checker " ++ name
  | .nothingToCheck path => "Nothing to check for " ++ path.text
  | .built targets status count =>
    "Build of " ++ String.intercalate ", " targets ++ " exited " ++ toString status ++ " with " ++
      toString count ++ " diagnostic(s)"
  | .unreadable record =>
    "Skipping non-diagnostic JSON line: " ++ String.ofList (record.take recordExcerpt)
  | .watcherStarted directory => "Watcher started for " ++ directory.text
  | .watcherStopped directory => "Watcher stopped for " ++ directory.text
  | .changed count => "Detected changes in " ++ toString count ++ " file(s)"
  | .callbackFailed => "Error in watcher callback"

end Note

end OwnerBuild.Log
