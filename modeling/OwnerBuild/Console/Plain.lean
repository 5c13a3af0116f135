/-
# OwnerBuild.Console.Plain -- items as plain lines

What is printed where nothing can be drawn: the texts of a line without their
styles, and a table as one line a row, the cells held apart by bars. A cell with
line breaks stays in its row.
-/

import OwnerBuild.Console

namespace OwnerBuild.Console

/-- The text of some runs. -/
def plainRuns (runs : List Markup.Run) : String := String.ofList (runs.flatMap (·.text))

/-- The line of a row. -/
def plainRow (cells : List String) : String := String.intercalate " | " cells

/-- The lines of an item. -/
def Item.plainLines : Item → List String
  | .line runs _ => [plainRuns runs]
  | .table headers rows => plainRow headers :: rows.map fun row => plainRow (row.map plainRuns)

/-- Where an item goes. -/
def Item.stream : Item → Stream
  | .line _ stream => stream
  | .table .. => .output

end OwnerBuild.Console
