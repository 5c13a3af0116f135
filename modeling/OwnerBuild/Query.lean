/-
# OwnerBuild.Query -- asking for the rules that own a file

The owners of a file are the rules that depend on it directly. They are asked
for with a query expression in which the file's path stands as a quoted word.
The query language has two quotation marks and no escapes: a word stands between
double quotes if it holds none, else between single quotes, and a word that
holds both kinds cannot be written. The answer is one label a line.
-/

import OwnerBuild.Settings
import OwnerBuild.Text.Quoted

namespace OwnerBuild

/-- A path that no query can name. -/
structure Unquotable where
  path : String
  deriving DecidableEq, Repr

/-- The wording of a refusal to quote. -/
def Unquotable.message (e : Unquotable) : String :=
  "Cannot quote " ++ Text.quote e.path ++ " in a query expression."

namespace Query

/-- A word between quotation marks, if one of the two kinds can hold it. -/
def quoteWord? (word : List Char) : Option (List Char) :=
  if !word.contains '"' then some ('"' :: word ++ ['"'])
  else if !word.contains '\'' then some ('\'' :: word ++ ['\''])
  else none

/-- A word cannot be quoted exactly when it holds both marks. -/
theorem quoteWord?_eq_none_iff {word : List Char} :
    quoteWord? word = none ↔ '"' ∈ word ∧ '\'' ∈ word := by
  by_cases double : '"' ∈ word <;> by_cases single : '\'' ∈ word <;>
    simp [quoteWord?, double, single]

/-- What stands before the path in a query. -/
def opening : String := "kind(\".* rule\", rdeps(//..., "

/-- What stands behind the path in a query. -/
def closing : String := ", 1))"

/-- The query for the rules that depend directly on a file. -/
def owners (path : String) : Except Unquotable String :=
  match quoteWord? path.toList with
  | none => .error ⟨path⟩
  | some word => .ok (opening ++ String.ofList word ++ closing)

/-- The flags that keep a query's own messages out of its output. -/
def quietFlags : List String :=
  ["--ui_event_filters=-info,-debug,-warning,-error,-stderr", "--noshow_progress"]

/-- The command that runs the query for a file. -/
def command (settings : Settings) (path : String) : Except Unquotable (List String) :=
  (owners path).map fun query => settings.executable :: "query" :: quietFlags ++ [query]

/-- The labels in a query's output: its lines, trimmed, without the empty ones. -/
def labels (output : List Char) : List (List Char) :=
  ((Text.lines output).map Text.trim).filter (· != [])

/-- The labels in the text of a query's output. -/
def labelsOf (output : String) : List String := (labels output.toList).map String.ofList

end Query

end OwnerBuild
