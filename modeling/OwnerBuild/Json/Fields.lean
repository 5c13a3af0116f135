/-
# OwnerBuild.Json.Fields -- what a field accepts

The values that a field of a given type takes from JSON. Text is taken from
strings alone. A whole number is also taken from a decimal whose double is whole
and inside ±2^63, from a truth value, and from a string that writes one. A truth
value is also taken from the numbers 0 and 1 and from twelve words. An optional
field takes null for absence, and an absent member is absence too.
-/

import OwnerBuild.Json.Literal
import OwnerBuild.Json.Double

namespace OwnerBuild.Json

open Text (digitsValue signed)

/-! ## Whole numbers in strings -/

/-- Leaves out the zeros that a number begins with, and underscores among them. What
follows is a digit, a minus sign, or the last zero if there is nothing else to be
the number; there is nothing when the number begins otherwise. -/
def dropZeros : List Char → Option (List Char)
  | '0' :: rest =>
    match rest.dropWhile fun c => c == '0' || c == '_' with
    | [] => if rest.getLast? = some '_' then none else some ['0']
    | c :: more =>
      if c.isDigit || c == '-' then some (c :: more)
      else if c == '.' then
        let zeros := rest.takeWhile fun c => c == '0' || c == '_'
        if zeros.getLast? = some '_' then none else some ('0' :: c :: more)
      else none
  | c :: rest => if c.isDigit || c == '-' then some (c :: rest) else none
  | [] => none

/-- Leaves out a fraction of zeros. -/
def dropFraction (s : List Char) : List Char :=
  match s.dropWhile (· != '.') with
  | _ :: zeros =>
    if !zeros.isEmpty && zeros.all (· == '0') then s.takeWhile (· != '.') else s
  | [] => s

/-- Whether each underscore stands between two other characters; `afterOther` tells
whether there is one in front. -/
def isSpread (afterOther : Bool) : List Char → Bool
  | [] => afterOther
  | c :: rest => if c == '_' then afterOther && isSpread false rest else isSpread true rest

/-- Leaves out underscores, if each of them stands between two other characters. -/
def dropUnderscores (s : List Char) : List Char :=
  if isSpread false s then s.filter (· != '_') else s

/-- The whole number that a string writes: white space around it, a sign in front,
underscores and zeros as they are left out above. A minus sign may also stand
behind the zeros of a number that has none in front. -/
def wholeText? (s : List Char) : Option Int :=
  let bare (s : List Char) : Option (List Char) :=
    (dropZeros s).map fun digits => dropUnderscores (dropFraction digits)
  let numeral := match Text.trimWhere Text.isSpaceProperty s with
    | '-' :: rest => (bare rest).map ('-' :: ·)
    | '+' :: '-' :: _ => none
    | '+' :: rest => bare rest
    | rest => bare rest
  match numeral.bind readNumber? with
  | some (.integer n) => some n
  | _ => none

/-! ## Truth values in strings -/

/-- The words for truth values, in small letters. -/
def truthWords : List (String × Bool) :=
  [("0", false), ("off", false), ("f", false), ("false", false), ("n", false), ("no", false),
    ("1", true), ("on", true), ("t", true), ("true", true), ("y", true), ("yes", true)]

/-- The truth value that a string says, in letters of either case. -/
def truthText? (s : String) : Option Bool :=
  truthWords.lookup (String.ofList (s.toList.map Char.toLower))

/-! ## Fields -/

/-- The whole number that a number is. -/
def Number.whole? : Number → Option Int
  | .integer n => some n
  | .decimal m e => wholeDouble? m e
  | .unbounded => none

namespace Value

/-- The text in a text field. -/
def text? : Value → Option String
  | .string s => some s
  | _ => none

/-- The number in a field for whole numbers. -/
def whole? : Value → Option Int
  | .number n => n.whole?
  | .bool b => some (if b then 1 else 0)
  | .string s => wholeText? s.toList
  | _ => none

/-- The truth value in a field for truth values. -/
def truth? : Value → Option Bool
  | .bool b => some b
  | .number n =>
    match n.whole? with
    | some 0 => some false
    | some 1 => some true
    | _ => none
  | .string s => truthText? s
  | _ => none

/-- The items in a field for arrays. -/
def items? : Value → Option (List Value)
  | .array items => some items
  | _ => none

end Value

/-- A required field: the member must be there and be accepted. -/
def required? {α : Type} (accept : Value → Option α) (key : String)
    (members : List (String × Value)) : Option α :=
  (member? key members).bind accept

/-- An optional field: null and absence are accepted as nothing. -/
def optional? {α : Type} (accept : Value → Option α) (key : String)
    (members : List (String × Value)) : Option (Option α) :=
  match member? key members with
  | none => some none
  | some .null => some none
  | some v => (accept v).map some

/-- A field that stands for a given value when it is absent. -/
def defaulted? {α : Type} (accept : Value → Option α) (absent : α) (key : String)
    (members : List (String × Value)) : Option α :=
  match member? key members with
  | none => some absent
  | some v => accept v

end OwnerBuild.Json
