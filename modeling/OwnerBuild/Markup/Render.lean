/-
# OwnerBuild.Markup.Render -- the styled text that markup stands for

Markup is read into tokens: characters, tags that open or close a style, and cuts
between stretches that are looked at separately. A tag behind an odd number of
backslashes is literal text; of an even number half are literal. Between tags,
a backslash in front of a bracket is left out.

A styled text is a list of runs: neighbours differ in style and none is empty. A
style is the innermost one open. Before a run is printed its emoji codes are
replaced and the control characters that a terminal would act on are taken out.

`render` and `renderPlain` end there, with the runs that are handed to a console to
be laid out. What the layout makes of them, such as spaces for tabs, lines folded at
the width of the console and blanks left out at their ends, is not modelled.
-/

import OwnerBuild.Markup.Emoji
import OwnerBuild.Markup.Tag

namespace OwnerBuild.Markup

/-! ## Tokens -/

/-- What markup is made of. -/
inductive Token where
  | char (c : Char)
  | cut
  | tag (body : List Char)
  deriving DecidableEq, Repr

/-- Where in a markup text the reader is: behind a number of backslashes, in a
tag that is literal text, or in one that is carried out. -/
inductive ScanMode where
  | outside (backslashes : Nat)
  | literal
  | tag (read : List Char)

/-- A number of backslashes. -/
def backslashes (n : Nat) : List Token := List.replicate n (.char '\\')

/-- The tokens of markup. -/
def scan : ScanMode → List Char → List Token
  | .outside n, [] => backslashes n
  | .literal, [] => []
  | .tag _, [] => []
  | .outside n, c :: rest =>
    if c == '\\' then scan (.outside (n + 1)) rest
    else if c == '[' && isTag rest then
      .cut :: backslashes (n / 2) ++ .cut ::
        (if n % 2 == 1 then .char c :: scan .literal rest else scan (.tag []) rest)
    else backslashes n ++ .char c :: scan (.outside 0) rest
  | .literal, c :: rest =>
    if c == ']' then .char c :: .cut :: scan (.outside 0) rest else .char c :: scan .literal rest
  | .tag read, c :: rest =>
    if c == ']' then .tag read.reverse :: scan (.outside 0) rest else scan (.tag (c :: read)) rest

/-! ## Runs -/

/-- A stretch of text in one style. -/
structure Run where
  text : List Char
  style : Option String
  deriving DecidableEq, Repr

/-- The open styles after a tag, the innermost first. A closing tag closes the
innermost style of its name, or without a name the innermost one. -/
def applyTag (styles : List String) (body : List Char) : List String :=
  match body with
  | '/' :: name =>
    match Text.trim name with
    | [] => styles.tail
    | name => styles.erase (String.ofList name)
  | name => String.ofList (Text.trim name) :: styles

/-- Puts a character in front of the first stretch. -/
def extendRun (c : Char) : List Run → List Run
  | [] => []
  | run :: rest => { run with text := c :: run.text } :: rest

/-- The stretches of a token list that begins within the given styles. The first
one is what the tokens begin with, possibly empty. -/
def stretches (styles : List String) : List Token → List Run
  | [] => [⟨[], styles.head?⟩]
  | .char c :: rest => extendRun c (stretches styles rest)
  | .cut :: rest => ⟨[], styles.head?⟩ :: stretches styles rest
  | .tag body :: rest => ⟨[], styles.head?⟩ :: stretches (applyTag styles body) rest

/-- Leaves out the backslash in front of each bracket. -/
def unescapeBrackets : List Char → List Char
  | [] => []
  | [c] => [c]
  | c :: d :: rest =>
    if c == '\\' && d == '[' then d :: unescapeBrackets rest else c :: unescapeBrackets (d :: rest)

/-- Joins neighbours of one style and leaves out empty stretches. -/
def mergeRuns : List Run → List Run
  | [] => []
  | run :: rest =>
    if run.text.isEmpty then mergeRuns rest
    else match mergeRuns rest with
      | [] => [run]
      | next :: others =>
        if run.style = next.style then ⟨run.text ++ next.text, run.style⟩ :: others
        else run :: next :: others

/-- The stretches of markup, with literal brackets, before printing. -/
def styledStretches (s : List Char) : List Run :=
  (stretches [] (scan (.outside 0) s)).map fun run => { run with text := unescapeBrackets run.text }

/-! ## Printing -/

/-- The control characters that are never printed. -/
def isTerminalControl (c : Char) : Bool :=
  c == '\x07' || c == '\x08' || c == '\x0b' || c == '\x0c' || c == '\r'

variable [EmojiTable]

/-- A stretch as it is printed. -/
def printed (s : List Char) : List Char :=
  (replaceEmoji s).filter fun c => !isTerminalControl c

/-- The runs that markup is printed as, before they are laid out. -/
def render (s : List Char) : List Run :=
  mergeRuns ((styledStretches s).map fun run => { run with text := printed run.text })

/-- The runs that a text without markup is printed as, before they are laid out. -/
def renderPlain (s : List Char) : List Run := mergeRuns [⟨printed s, none⟩]

end OwnerBuild.Markup
