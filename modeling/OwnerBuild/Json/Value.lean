/-
# OwnerBuild.Json.Value -- JSON values and how they are written

A number keeps what its literal says: an integer of any size, a decimal as an
integer times a power of ten, or one of the literals that name no number. An
object keeps all its members in order, also those whose key repeats; `member?`
gives the last one, which is the one that counts.

Values are written compactly, with every character outside of printable ASCII
escaped, so that the written form is a single line of ASCII.
-/

import OwnerBuild.Text.Decimal
import OwnerBuild.Text.Quoted

namespace OwnerBuild.Json

/-- A number literal. -/
inductive Number where
  | integer (n : Int)
  | decimal (mantissa : Int) (exponent : Int)
  | unbounded
  deriving DecidableEq, Repr

/-- A JSON value. -/
inductive Value where
  | null
  | bool (b : Bool)
  | number (n : Number)
  | string (s : String)
  | array (items : List Value)
  | object (members : List (String × Value))
  deriving Inhabited, Repr

/-- The value of a key: that of its last member. -/
def member? (key : String) : List (String × Value) → Option Value
  | [] => none
  | (k, v) :: rest =>
    match member? key rest with
    | some later => some later
    | none => if k = key then some v else none

/-- The value of a key in an object; other values have no members. -/
def Value.get? (v : Value) (key : String) : Option Value :=
  match v with
  | .object members => member? key members
  | _ => none

/-! ## Writing -/

/-- Four hexadecimal digits behind the mark of an escape. -/
def escapeUnit (n : Nat) : List Char := '\\' :: 'u' :: Text.hexDigits 4 n

/-- A character of a string as it is written: as one escape, or two if it has no
code of four digits, unless it is plain ASCII. -/
def writeChar (c : Char) : List Char :=
  if c == '"' || c == '\\' then ['\\', c]
  else if 0x20 ≤ c.toNat && c.toNat < 0x7f then [c]
  else if c.toNat < 0x10000 then escapeUnit c.toNat
  else escapeUnit (0xd800 + (c.toNat - 0x10000) / 0x400) ++
    escapeUnit (0xdc00 + (c.toNat - 0x10000) % 0x400)

/-- A string between its quotes. -/
def writeString (s : List Char) : List Char := '"' :: s.flatMap writeChar ++ ['"']

/-- A number literal. -/
def Number.write : Number → List Char
  | .integer n => Text.signedDigits n
  | .decimal m e => Text.signedDigits m ++ 'e' :: Text.signedDigits e
  | .unbounded => "NaN".toList

mutual
/-- The compact form of a value. -/
def Value.write : Value → List Char
  | .null => "null".toList
  | .bool true => "true".toList
  | .bool false => "false".toList
  | .number n => n.write
  | .string s => writeString s.toList
  | .array items => '[' :: writeItems items ++ [']']
  | .object members => '\x7b' :: writeMembers members ++ ['\x7d']

/-- The items of an array with commas between them. -/
def writeItems : List Value → List Char
  | [] => []
  | [v] => v.write
  | v :: w :: rest => v.write ++ ',' :: writeItems (w :: rest)

/-- The members of an object with commas between them. -/
def writeMembers : List (String × Value) → List Char
  | [] => []
  | [(k, v)] => writeString k.toList ++ ':' :: v.write
  | (k, v) :: m :: rest => writeString k.toList ++ ':' :: v.write ++ ',' :: writeMembers (m :: rest)
end

end OwnerBuild.Json
