/-
# OwnerBuild.Markup.Tag -- where tags are in a text

A tag is a bracket, one of the characters that a tag begins with, and any further
characters but an opening bracket up to the first closing one. A tag is looked
for right behind an opening bracket, so the two scans that care for tags, the one
that escapes them and the one that carries them out, ask the same question.

Escaping doubles the backslashes in front of each tag and puts one more there. A
text that then ends in a single backslash gets a second one, so that it cannot
escape a tag that is put behind it.
-/

import OwnerBuild.Text.Lines

namespace OwnerBuild.Markup

/-- The characters that a tag begins with. -/
def isTagStart (c : Char) : Bool :=
  ('a' ≤ c && c ≤ 'z') || c == '#' || c == '/' || c == '@'

/-- Whether a closing bracket comes before any further opening one. -/
def closes : List Char → Bool
  | [] => false
  | c :: rest => if c == ']' then true else if c == '[' then false else closes rest

/-- Whether what follows an opening bracket makes it begin a tag. -/
def isTag : List Char → Bool
  | [] => false
  | c :: rest => isTagStart c && closes rest

/-- Escapes the tags of a text that follows a number of backslashes. -/
def escapeFrom (backslashes : Nat) : List Char → List Char
  | [] => List.replicate backslashes '\\'
  | c :: rest =>
    if c == '\\' then escapeFrom (backslashes + 1) rest
    else if c == '[' && isTag rest then
      List.replicate (2 * backslashes + 1) '\\' ++ '[' :: escapeFrom 0 rest
    else List.replicate backslashes '\\' ++ c :: escapeFrom 0 rest

/-- Whether a text ends in one backslash and no more. -/
def endsInOneBackslash (s : List Char) : Bool :=
  match s.reverse with
  | ['\\'] => true
  | '\\' :: c :: _ => c != '\\'
  | _ => false

/-- A text in which no tag is carried out and whose end escapes nothing. -/
def escape (s : List Char) : List Char :=
  let escaped := escapeFrom 0 s
  if endsInOneBackslash escaped then escaped ++ ['\\'] else escaped

/-- A string in which no tag is carried out. -/
def escapeString (s : String) : String := String.ofList (escape s.toList)

example : escape "a[b]\\[/c]\\".toList = "a\\[b]\\\\\\[/c]\\\\".toList := by decide
example : escape "[[x] [Y] [z".toList = "[\\[x] [Y] [z".toList := by decide

end OwnerBuild.Markup
