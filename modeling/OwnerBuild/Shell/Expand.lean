/-
# OwnerBuild.Shell.Expand -- what words stand for

A word stands for fields. A parameter between quotes adds its value to a field as it
is; outside of quotes the blanks in its value end fields. All the arguments between
quotes make a field each. Where a choice is made a word is a pattern instead, in
which `*` and `?` that are not quoted stand for other characters.
-/

import OwnerBuild.Shell.Script
import OwnerBuild.Shell.State

namespace OwnerBuild.Shell

/-! ## Parameters -/

/-- The number that a script knows itself by. -/
def ownNumber : String := "4242"

/-- The value of a parameter, if it is set. -/
def parameter? (s : RunState) (name : String) : Option String :=
  if name = "0" then some s.name
  else if name = "#" then some (toString s.arguments.length)
  else if name = "$" then some ownNumber
  else if name = "?" then some (toString s.status)
  else if name = "@" ∨ name = "*" then some (String.intercalate " " s.arguments)
  else match name.toNat? with
    | some n => s.arguments[n - 1]?
    | none =>
      match s.parameters.lookup name with
      | some value => some value
      | none => if name = "PWD" then some (Place.path s.directory).text else none

/-- The value of a parameter, empty if it is not set. -/
def parameterText (s : RunState) (name : String) : String := (parameter? s name).getD ""

/-- The first parameter of a word that is not set. -/
def unsetName? (s : RunState) (w : Word) : Option String :=
  w.findSome? fun
    | .parameter name _ => if (parameter? s name).isSome then none else some name
    | _ => none

/-! ## Fields -/

/-- A word under expansion: the fields that are complete, the last first, the
characters of the one that is not, the last first, and whether there is one. -/
structure Fields where
  complete : List String
  current : List Char
  started : Bool

namespace Fields

/-- Ends the field that is being collected, if there is one. -/
def endField (f : Fields) : Fields :=
  if f.started then ⟨String.ofList f.current.reverse :: f.complete, [], false⟩ else f

/-- Adds characters that belong to the field whatever they are. -/
def add (f : Fields) (cs : List Char) : Fields :=
  { f with current := cs.reverse ++ f.current, started := true }

/-- Adds characters of which blanks end a field. -/
def addSplit (f : Fields) : List Char → Fields
  | [] => f
  | c :: rest =>
    if c == ' ' || c == '\t' || c == '\n' then f.endField.addSplit rest
    else (f.add [c]).addSplit rest

/-- Adds texts of which each but the first begins a new field. -/
def addEach (f : Fields) : List String → Fields
  | [] => f
  | [a] => f.add a.toList
  | a :: rest => (f.add a.toList).endField.addEach rest

end Fields

/-- Expands a mark. -/
def expandMark (s : RunState) (f : Fields) : Mark → Fields
  | .plain c | .quoted c => f.add [c]
  | .quotes => f.add []
  | .parameter name true =>
    if name = "@" then f.addEach s.arguments else f.add (parameterText s name).toList
  | .parameter name false => f.addSplit (parameterText s name).toList

/-- Whether a word is nothing but all the arguments in quotes, which makes no field
when there are none. -/
def isQuotedArguments (w : Word) : Bool := w == [.parameter "@" true, .quotes]

/-- The fields that a word stands for. -/
def expandWord (s : RunState) (w : Word) : List String :=
  if isQuotedArguments w && s.arguments.isEmpty then []
  else (w.foldl (expandMark s) ⟨[], [], false⟩).endField.complete.reverse

/-- The fields that some words stand for. -/
def expandWords (s : RunState) (ws : List Word) : List String := ws.flatMap (expandWord s)

/-- The text that a word stands for where there is only one. -/
def expandText (s : RunState) (w : Word) : List Char :=
  w.flatMap fun
    | .plain c | .quoted c => [c]
    | .quotes => []
    | .parameter name _ => (parameterText s name).toList

/-! ## Patterns -/

/-- A piece of a pattern. -/
inductive PatternPiece where
  | exactly (c : Char)
  | anyOne
  | anyMany
  deriving DecidableEq, Repr

/-- The pattern that a word stands for. -/
def patternOf (s : RunState) (w : Word) : List PatternPiece :=
  let special (c : Char) : PatternPiece :=
    if c == '*' then .anyMany else if c == '?' then .anyOne else .exactly c
  w.flatMap fun
    | .plain c => [special c]
    | .quoted c => [.exactly c]
    | .quotes => []
    | .parameter name true => (parameterText s name).toList.map .exactly
    | .parameter name false => (parameterText s name).toList.map special

/-- Whether some end of a text satisfies a test. -/
def anyEnd (test : List Char → Bool) : List Char → Bool
  | [] => test []
  | c :: rest => test (c :: rest) || anyEnd test rest

/-- Whether a text has the form of a pattern. -/
def hasForm : List PatternPiece → List Char → Bool
  | [], text => text.isEmpty
  | .exactly c :: rest, text =>
    match text with
    | d :: text => c == d && hasForm rest text
    | [] => false
  | .anyOne :: rest, text =>
    match text with
    | _ :: text => hasForm rest text
    | [] => false
  | .anyMany :: rest, text => anyEnd (hasForm rest) text

end OwnerBuild.Shell
