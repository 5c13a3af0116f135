/-
# OwnerBuild.Diagnostic -- what a build says about a place in a file

A diagnostic has a location, a severity and a text. The file is a path; the end
of the location and the error code may be missing.
-/

import OwnerBuild.Json.Fields
import OwnerBuild.Path

namespace OwnerBuild

/-- How bad a diagnostic is. -/
inductive Severity where
  | error
  | warning
  | info
  deriving DecidableEq, Repr

namespace Severity

/-- The word for a severity. -/
def text : Severity → String
  | .error => "error"
  | .warning => "warning"
  | .info => "info"

/-- The severities, the worst first. -/
def all : List Severity := [.error, .warning, .info]

/-- The severity that a word names. -/
def ofText? (s : String) : Option Severity := all.find? (·.text = s)

@[simp] theorem ofText?_text (s : Severity) : ofText? s.text = some s := by cases s <;> decide

end Severity

/-- What is said about a place in a file. -/
structure Diagnostic where
  file : Path
  line : Int
  column : Int
  severity : Severity
  message : String
  code : Option String := none
  endLine : Option Int := none
  endColumn : Option Int := none
  deriving DecidableEq

namespace Diagnostic

open Json in
/-- The diagnostic that the members of an object describe. -/
def ofMembers? (members : List (String × Value)) : Option Diagnostic := do
  let file ← required? Value.text? "file" members
  let line ← required? Value.whole? "line" members
  let column ← required? Value.whole? "column" members
  let severity ← required? (fun v => v.text?.bind Severity.ofText?) "severity" members
  let message ← required? Value.text? "message" members
  let code ← optional? Value.text? "code" members
  let endLine ← optional? Value.whole? "end_line" members
  let endColumn ← optional? Value.whole? "end_column" members
  return { file := .ofText file, line, column, severity, message, code, endLine, endColumn }

/-- How the code of a diagnostic can be looked up. -/
def explanation? (d : Diagnostic) : Option String :=
  d.code.map fun code => "Run `rustc --explain " ++ code ++ "` for details."

/-- Whether some diagnostic is an error. -/
def anyError (ds : List Diagnostic) : Bool := ds.any (·.severity = .error)

end Diagnostic

end OwnerBuild
