/-
# OwnerBuild.Text.Lines -- cutting a text into lines

A text is a sequence of lines, each ended by a line break, with a last line that
needs no break. A carriage return followed by a line feed is one break. The
reader walks the text once and keeps one bit: whether the character before was a
carriage return, in which case a line feed belongs to a break already taken.
-/

import OwnerBuild.Text.Blank

namespace OwnerBuild.Text

/-- Puts a character in front of the first line, opening a line if there is none. -/
def extendFirst (c : Char) : List (List Char) → List (List Char)
  | [] => [[c]]
  | line :: rest => (c :: line) :: rest

/-- The lines of a text that follows a carriage return (`afterReturn`) or not. -/
def linesFrom (afterReturn : Bool) : List Char → List (List Char)
  | [] => []
  | c :: rest =>
    if afterReturn && c == '\n' then linesFrom false rest
    else if isLineBreak c then [] :: linesFrom (c == '\r') rest
    else extendFirst c (linesFrom false rest)

/-- The lines of a text, without their breaks. An empty text has no lines, and a
break at the very end opens no further line. -/
def lines (s : List Char) : List (List Char) := linesFrom false s

/-- Joins texts with a separator between neighbours. -/
def joinWith (sep : List Char) : List (List Char) → List Char
  | [] => []
  | [s] => s
  | s :: t :: rest => s ++ sep ++ joinWith sep (t :: rest)

@[simp] theorem lines_nil : lines [] = [] := rfl

/-- A character that is no break extends the first line of what follows. -/
theorem linesFrom_cons_of_not_break {c : Char} (h : isLineBreak c = false) (b : Bool)
    (rest : List Char) : linesFrom b (c :: rest) = extendFirst c (linesFrom false rest) := by
  have hc : (c == '\n') = false := by
    cases hn : c == '\n' with
    | false => rfl
    | true => rw [beq_iff_eq] at hn; subst hn; revert h; decide
  simp [linesFrom, hc, h]

example : lines "a\r\nb\n\nc".toList = ["a".toList, "b".toList, [], "c".toList] := by decide
example : lines "a\r\r\n".toList = ["a".toList, []] := by decide

end OwnerBuild.Text
