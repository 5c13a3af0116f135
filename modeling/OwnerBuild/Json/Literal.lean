/-
# OwnerBuild.Json.Literal -- words and numbers

A literal is a run of letters, digits, signs and dots; what it means is decided
once it has ended. It is one of the three JSON words, one of the three words for
numbers that are none, or a number: an optional minus sign, an integer part
without superfluous zeros, and optionally a fraction and an exponent. A number
with neither is an integer. The integer part may have as many digits as
`longestInteger`, whether a fraction or an exponent follows or not, and the sign is
not one of them.
-/

import OwnerBuild.Json.Value

namespace OwnerBuild.Json

open Text (digitsValue signed)

/-- The characters of literals. -/
def isLiteralChar (c : Char) : Bool := c.isAlphanum || c == '+' || c == '-' || c == '.'

/-- The digits that the integer part of a number may have. -/
def longestInteger : Nat := 4300

/-- The integer part of a number: a zero, or digits that do not begin with one and are not
too many. -/
def isIntegerPart (digits : List Char) : Bool :=
  match digits with
  | [] => false
  | ['0'] => true
  | d :: _ => d != '0' && digits.length ≤ longestInteger

/-- The digits of an exponent, of which there must be some. -/
def readExponentDigits? (digits : List Char) : Option Nat :=
  if digits ≠ [] ∧ digits.all Char.isDigit then some (digitsValue digits) else none

/-- The exponent that the rest of a number says, behind its mark. -/
def readExponent? : List Char → Option Int
  | '-' :: digits => (readExponentDigits? digits).map (signed true)
  | '+' :: digits => (readExponentDigits? digits).map (signed false)
  | digits => (readExponentDigits? digits).map (signed false)

/-- The number with the given sign, integer part and fraction, and what follows. -/
def readScale? (negative : Bool) (whole fraction rest : List Char) : Option Number :=
  let mantissa := signed negative (digitsValue (whole ++ fraction))
  match rest with
  | [] => some (.decimal mantissa (-fraction.length))
  | c :: exponent =>
    if c == 'e' || c == 'E' then
      (readExponent? exponent).map fun e => .decimal mantissa (e - fraction.length)
    else none

/-- An unsigned number, with the sign that was in front of it. -/
def readUnsigned? (negative : Bool) (s : List Char) : Option Number :=
  let whole := s.takeWhile Char.isDigit
  if isIntegerPart whole then
    match s.dropWhile Char.isDigit with
    | [] => some (.integer (signed negative (digitsValue whole)))
    | '.' :: rest =>
      let fraction := rest.takeWhile Char.isDigit
      if fraction = [] then none
      else readScale? negative whole fraction (rest.dropWhile Char.isDigit)
    | rest => readScale? negative whole [] rest
  else none

/-- A number. -/
def readNumber? : List Char → Option Number
  | '-' :: rest => readUnsigned? true rest
  | s => readUnsigned? false s

/-- The words, with what they stand for. -/
def literalWords : List (List Char × Value) :=
  [("null".toList, .null), ("true".toList, .bool true), ("false".toList, .bool false),
    ("NaN".toList, .number .unbounded), ("Infinity".toList, .number .unbounded),
    ("-Infinity".toList, .number .unbounded)]

/-- The value of a literal. -/
def readLiteral? (s : List Char) : Option Value :=
  match literalWords.lookup s with
  | some v => some v
  | none => (readNumber? s).map .number

end OwnerBuild.Json
