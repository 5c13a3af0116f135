/-
# OwnerBuild.Markup.Emoji -- emoji codes

An emoji code is a name between colons, with an optional ending that chooses a
variant. Codes are looked for from left to right, the name being as short as
possible and free of blanks; one whose name is known is replaced, any other one
is passed over as a whole, its closing colon included.

Which names are known is not said here. The table of them comes with the console
that the program prints to, and `EmojiTable` is all that is relied on.
-/

import OwnerBuild.Text.Blank
import OwnerBuild.Text.LowerCase

namespace OwnerBuild.Markup

/-- A table of emoji, asked for a name in small letters. Whatever stands for a name is not made
of colons, so what has been replaced begins no code and ends none. -/
class EmojiTable where
  emoji? : List Char → Option (List Char)
  noColon : ∀ {name emoji : List Char}, emoji? name = some emoji → ':' ∉ emoji

/-- The endings that choose a variant, each with its closing colon and the
character that selects the variant. -/
def emojiVariants : List (List Char × List Char) :=
  [("-emoji:".toList, ['\uFE0F']), ("-text:".toList, ['\uFE0E']), ([':'], [])]

/-- A code behind its opening colon: the name, the variant, and the number of
characters up to and with the closing colon. -/
structure EmojiCode where
  name : List Char
  variant : List Char
  length : Nat
  deriving DecidableEq, Repr

/-- The code that a text begins with, behind the opening colon. -/
def emojiCode? : List Char → Option EmojiCode
  | [] => none
  | c :: rest =>
    match emojiVariants.find? fun v => v.1.isPrefixOf (c :: rest) with
    | some v => some ⟨[], v.2, v.1.length⟩
    | none =>
      if Text.isBlank c then none
      else (emojiCode? rest).map fun code => ⟨c :: code.name, code.variant, code.length + 1⟩

/-- What is done with the next characters: they are looked at, or a number of
them is kept or left out. -/
inductive EmojiMode where
  | look
  | keep (count : Nat)
  | drop (count : Nat)

variable [EmojiTable]

/-- Replaces the codes of a text. -/
def replaceEmojiFrom : EmojiMode → List Char → List Char
  | _, [] => []
  | .keep (n + 1), c :: rest => c :: replaceEmojiFrom (.keep n) rest
  | .drop (n + 1), _ :: rest => replaceEmojiFrom (.drop n) rest
  | .look, c :: rest | .keep 0, c :: rest | .drop 0, c :: rest =>
    if c == ':' then
      match emojiCode? rest with
      | none => c :: replaceEmojiFrom .look rest
      | some code =>
        match EmojiTable.emoji? (Text.lower code.name) with
        | some emoji => emoji ++ code.variant ++ replaceEmojiFrom (.drop code.length) rest
        | none => c :: replaceEmojiFrom (.keep code.length) rest
    else c :: replaceEmojiFrom .look rest

/-- A text with its known emoji codes replaced. -/
def replaceEmoji (s : List Char) : List Char := replaceEmojiFrom .look s

end OwnerBuild.Markup
