/-
# OwnerBuild.Text.Quoted -- texts shown in quotation marks

How a text is shown inside a message: between quotation marks, on one line, with
everything that is not printable written as an escape. A text that holds a
single quote and no double quote stands between double quotes, every other one
between single quotes, so that most texts need no escaped quote at all. A list
is shown as its quoted items in brackets.
-/

import OwnerBuild.Text.Printable
import OwnerBuild.Text.Lines

namespace OwnerBuild.Text

/-! ## One character -/

/-- The lower-case hexadecimal digit of a number below sixteen. -/
def hexDigit (n : Nat) : Char :=
  if n < 10 then Char.ofNat (0x30 + n) else Char.ofNat (0x61 + (n - 10))

/-- The last `width` hexadecimal digits of a number. -/
def hexDigits : (width : Nat) → Nat → List Char
  | 0, _ => []
  | width + 1, n => hexDigits width (n / 16) ++ [hexDigit (n % 16)]

/-- A character as it is shown between two marks of the given kind. -/
def quoteChar (mark c : Char) : List Char :=
  if c == mark || c == '\\' then ['\\', c]
  else if c == '\n' then ['\\', 'n']
  else if c == '\r' then ['\\', 'r']
  else if c == '\t' then ['\\', 't']
  else if isPrintable c then [c]
  else if c.toNat < 0x100 then '\\' :: 'x' :: hexDigits 2 c.toNat
  else if c.toNat < 0x10000 then '\\' :: 'u' :: hexDigits 4 c.toNat
  else '\\' :: 'U' :: hexDigits 8 c.toNat

/-! ## Texts and lists of texts -/

/-- The mark that a text is put between. -/
def quoteMark (s : List Char) : Char :=
  if s.contains '\'' && !s.contains '"' then '"' else '\''

/-- A text between its marks. -/
def quoted (s : List Char) : List Char :=
  quoteMark s :: s.flatMap (quoteChar (quoteMark s)) ++ [quoteMark s]

/-- The quoted items in brackets. -/
def quotedList (items : List (List Char)) : List Char :=
  '[' :: joinWith [',', ' '] (items.map quoted) ++ [']']

/-- A string in quotation marks. -/
def quote (s : String) : String := String.ofList (quoted s.toList)

/-- Strings in quotation marks, in brackets. -/
def quoteList (items : List String) : String :=
  String.ofList (quotedList (items.map String.toList))

example : quoted "it's".toList = "\"it's\"".toList := by decide +kernel
example : quoted "a\n\x01\\".toList = "'a\\n\\x01\\\\'".toList := by decide +kernel

end OwnerBuild.Text
