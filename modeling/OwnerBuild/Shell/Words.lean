/-
# OwnerBuild.Shell.Words -- splitting a text into words as a shell does

Words stand between blanks, tabs and line ends. Inside single quotes every
character stands for itself; inside double quotes a backslash escapes a double
quote or a backslash and is kept before anything else; outside of both it
escapes whatever follows. Quoted stretches join the word they touch, and an
empty pair of quotes is an empty word. There are no comments.

The reader is a machine with six modes. Instead of collecting a word it puts
each character in front of the word that the rest of the text begins with, so
that every mode is described by what it does to the rest.
-/

import OwnerBuild.Text.Lines

namespace OwnerBuild.Shell

/-- What a text lacks at its end. -/
inductive WordsError where
  | noClosingQuote
  | noEscapedCharacter
  deriving DecidableEq, Repr

/-- The wording of a failure to split. -/
def WordsError.message : WordsError → String
  | .noClosingQuote => "No closing quotation"
  | .noEscapedCharacter => "No escaped character"

/-- Where in a text the reader is. -/
inductive WordsMode where
  | between
  | inWord
  | inSingle
  | inDouble
  | escaped
  | escapedInDouble
  deriving DecidableEq, Repr

/-- The characters between words. -/
def isWordBreak (c : Char) : Bool := c == ' ' || c == '\t' || c == '\r' || c == '\n'

/-- Puts characters in front of the first word. -/
def extendWord (cs : List Char) (words : List (List Char)) : List (List Char) :=
  cs.foldr Text.extendFirst words

/-- The words of the rest of a text. Inside a word the first of them is what is
left of it. -/
def wordsFrom : WordsMode → List Char → Except WordsError (List (List Char))
  | .between, [] => .ok []
  | .inWord, [] => .ok [[]]
  | .inSingle, [] => .error .noClosingQuote
  | .inDouble, [] => .error .noClosingQuote
  | .escaped, [] => .error .noEscapedCharacter
  | .escapedInDouble, [] => .error .noEscapedCharacter
  | .between, c :: rest =>
    if isWordBreak c then wordsFrom .between rest
    else if c == '\'' then wordsFrom .inSingle rest
    else if c == '"' then wordsFrom .inDouble rest
    else if c == '\\' then wordsFrom .escaped rest
    else (wordsFrom .inWord rest).map (extendWord [c])
  | .inWord, c :: rest =>
    if isWordBreak c then (wordsFrom .between rest).map ([] :: ·)
    else if c == '\'' then wordsFrom .inSingle rest
    else if c == '"' then wordsFrom .inDouble rest
    else if c == '\\' then wordsFrom .escaped rest
    else (wordsFrom .inWord rest).map (extendWord [c])
  | .inSingle, c :: rest =>
    if c == '\'' then wordsFrom .inWord rest
    else (wordsFrom .inSingle rest).map (extendWord [c])
  | .inDouble, c :: rest =>
    if c == '"' then wordsFrom .inWord rest
    else if c == '\\' then wordsFrom .escapedInDouble rest
    else (wordsFrom .inDouble rest).map (extendWord [c])
  | .escaped, c :: rest => (wordsFrom .inWord rest).map (extendWord [c])
  | .escapedInDouble, c :: rest =>
    (wordsFrom .inDouble rest).map
      (extendWord (if c == '"' || c == '\\' then [c] else ['\\', c]))

/-- The words of a text. -/
def words (s : String) : Except WordsError (List String) :=
  (wordsFrom .between s.toList).map (·.map String.ofList)

example : wordsFrom .between "a 'b c'\"d\\x\" ''".toList =
    .ok ["a".toList, "b cd\\x".toList, []] := by rfl
example : wordsFrom .between "a \\".toList = .error .noEscapedCharacter := by rfl

end OwnerBuild.Shell
