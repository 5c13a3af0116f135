/-
# OwnerBuild.Shell.Output -- what is written by `echo` and `printf`

Both write a text in which a backslash begins an escape: a letter, or a byte in
octal digits. For `printf` the text is a format besides, whose directives are filled
with the arguments; it is used again as long as arguments are left. Output is bytes,
not text, as an escape can stand for a byte that is no character.
-/

import OwnerBuild.Text.Utf8

namespace OwnerBuild.Shell

/-! ## Formats -/

/-- What an escape of one letter stands for. -/
def letterEscape? (c : Char) : Option UInt8 :=
  if c == 'a' then some 7
  else if c == 'b' then some 8
  else if c == 'f' then some 12
  else if c == 'n' then some 10
  else if c == 'r' then some 13
  else if c == 't' then some 9
  else if c == 'v' then some 11
  else if c == '\\' then some 92
  else if c == '"' then some 34
  else none

/-- The value of an octal digit. -/
def octalValue? (c : Char) : Option Nat :=
  if '0' ≤ c ∧ c ≤ '7' then some (c.toNat - '0'.toNat) else none

/-- The bytes of a character. -/
def charBytes (c : Char) : List UInt8 := Text.encode (String.singleton c)

/-- Where in a format the reader is: among its characters, behind a backslash, or
among the octal digits of a byte. -/
inductive FormatMode where
  | text
  | escape
  | octal (digits value : Nat)
  | directive

/-- What a format is made of: a byte, or the place of an argument. -/
inductive FormatPart where
  | byte (b : UInt8)
  | argument

/-- The parts of a character. -/
def charParts (c : Char) : List FormatPart := (charBytes c).map .byte

/-- A character among the text of a format. -/
def textStep (directives : Bool) (c : Char) : FormatMode × List FormatPart :=
  if c == '\\' then (.escape, [])
  else if c == '%' && directives then (.directive, [])
  else (.text, charParts c)

/-- The parts of a format, in which directives count or do not. -/
def formatParts (directives : Bool) : FormatMode → List Char → List FormatPart
  | .text, [] => []
  | .escape, [] => [.byte 92]
  | .octal _ value, [] => [.byte (UInt8.ofNat value)]
  | .directive, [] => [.byte 37]
  | .text, c :: rest =>
    (textStep directives c).2 ++ formatParts directives (textStep directives c).1 rest
  | .escape, c :: rest =>
    match octalValue? c, letterEscape? c with
    | some d, _ => formatParts directives (.octal (if directives then 1 else 0) d) rest
    | none, some b => .byte b :: formatParts directives .text rest
    | none, none => .byte 92 :: charParts c ++ formatParts directives .text rest
  | .octal digits value, c :: rest =>
    match octalValue? c with
    | some d =>
      if digits < 3 then formatParts directives (.octal (digits + 1) (value * 8 + d)) rest
      else .byte (UInt8.ofNat value) :: charParts c ++ formatParts directives .text rest
    | none =>
      .byte (UInt8.ofNat value) :: (textStep directives c).2 ++
        formatParts directives (textStep directives c).1 rest
  | .directive, c :: rest =>
    if c == '%' then .byte 37 :: formatParts directives .text rest
    else .argument :: formatParts directives .text rest

/-- The bytes of a format once through, and the arguments that are left. -/
def fillFormat : List FormatPart → List String → List UInt8 × List String
  | [], args => ([], args)
  | .byte b :: rest, args =>
    let (bytes, left) := fillFormat rest args
    (b :: bytes, left)
  | .argument :: rest, args =>
    let (bytes, left) := fillFormat rest args.tail
    (Text.encode (args.headD "") ++ bytes, left)

/-- The bytes of a format that is used again as long as it takes arguments off. -/
def repeatFormat (parts : List FormatPart) : (fuel : Nat) → List String → List UInt8
  | 0, _ => []
  | fuel + 1, args =>
    let (bytes, left) := fillFormat parts args
    if left.isEmpty || left.length == args.length then bytes
    else bytes ++ repeatFormat parts fuel left

/-- What `printf` writes. -/
def formatted (format : String) (args : List String) : List UInt8 :=
  repeatFormat (formatParts true .text format.toList) (args.length + 1) args

/-- What `echo` writes of a text. -/
def echoed (text : String) : List UInt8 :=
  (fillFormat (formatParts false .text text.toList) []).1

end OwnerBuild.Shell
