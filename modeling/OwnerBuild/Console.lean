/-
# OwnerBuild.Console -- what is printed

What goes to a console is a sequence of items: lines of styled text and tables.
A table has plain headers and rows of cells, each cell being a styled text. Lines
can also go to the stream for errors. An item is what a console is given to lay out,
not what it draws.
-/

import OwnerBuild.Markup.Render

namespace OwnerBuild.Console

open Markup (Run)

/-- Where an item is printed. -/
inductive Stream where
  | output
  | errors
  deriving DecidableEq, Repr

/-- What is printed at once. -/
inductive Item where
  | line (runs : List Run) (stream : Stream)
  | table (headers : List String) (rows : List (List (List Run)))
  deriving DecidableEq, Repr

section Printed

variable [Markup.EmojiTable]

/-- A line of markup. -/
def Item.markup (s : String) : Item := .line (Markup.render s.toList) .output

/-- A line of text that is no markup. -/
def Item.plain (s : String) : Item := .line (Markup.renderPlain s.toList) .output

/-- A line of markup for the stream of errors. -/
def Item.errorMarkup (s : String) : Item := .line (Markup.render s.toList) .errors

/-- A table whose cells are markup. -/
def Item.markupTable (headers : List String) (rows : List (List String)) : Item :=
  .table headers (rows.map fun row => row.map fun cell => Markup.render cell.toList)

end Printed

/-- Markup that prints a text in a style. -/
def inStyle (style text : String) : String := "[" ++ style ++ "]" ++ text ++ "[/" ++ style ++ "]"

end OwnerBuild.Console
