/-
# OwnerBuild.Shell.Script -- the syntax of small scripts

Build tools and the wrappers around them are often short shell scripts. This is
the part of the shell language that such wrappers are written in: simple
commands with assignments and redirections, lists joined by `;`, `&&` and `||`,
negation, groups, conditionals, a choice by patterns, one command for each of some
words, the three kinds of quoting, and parameters. There are no other loops, no
functions, pipelines, subshells or substitutions, so a script is a finite tree and
running it ends.

A script is read in three steps. Quoting is resolved first: each character is
marked as plain or quoted and each parameter is told apart. Then the marks become
words and operators. Then the words become commands.
-/

import OwnerBuild.Text.Blank

namespace OwnerBuild.Shell

/-! ## Marks -/

/-- What a character of a script is once quoting is resolved. An empty pair of
quotes leaves a mark too, as it makes a word. -/
inductive Mark where
  | plain (c : Char)
  | quoted (c : Char)
  | parameter (name : String) (isQuoted : Bool)
  | quotes
  deriving DecidableEq, Repr

/-- Where in a script the reader is. Behind a dollar sign it knows whether it is
between double quotes, and of the name of a parameter what has been read, the last
character first. -/
inductive MarkMode where
  | wordStart
  | inWord
  | comment
  | escaped
  | single
  | double
  | escapedInDouble
  | dollar (isQuoted : Bool)
  | name (isQuoted : Bool) (soFar : List Char)
  | braces (isQuoted : Bool) (soFar : List Char)
  deriving DecidableEq, Repr

/-- The parameters that have a name of one character. -/
def isSpecialName (c : Char) : Bool :=
  c.isDigit || c == '@' || c == '*' || c == '#' || c == '$' || c == '?'

/-- The characters that a name may begin with. -/
def beginsName (c : Char) : Bool := c.isAlpha || c == '_'

/-- The characters of names. -/
def isNameChar (c : Char) : Bool := c.isAlphanum || c == '_'

/-- The characters that a backslash escapes inside double quotes. -/
def isEscapedInDouble (c : Char) : Bool := c == '$' || c.toNat == 0x60 || c == '"' || c == '\\'

/-- The characters behind which a word may begin. -/
def endsWord (c : Char) : Bool :=
  c == ' ' || c == '\t' || c == '\n' || c == ';' || c == '&' || c == '|' || c == '<' ||
    c == '>' || c == '(' || c == ')'

namespace MarkMode

/-- Where the reader goes on behind a parameter. -/
def behind (isQuoted : Bool) : MarkMode := if isQuoted then .double else .inWord

/-- A character outside of quotes. -/
def plainStep (atStart : Bool) (c : Char) : List Mark × MarkMode :=
  if c == '\'' then ([], .single)
  else if c == '"' then ([], .double)
  else if c == '\\' then ([], .escaped)
  else if c == '$' then ([], .dollar false)
  else if c == '#' && atStart then ([], .comment)
  else ([.plain c], if endsWord c then .wordStart else .inWord)

/-- A character between double quotes. -/
def doubleStep (c : Char) : List Mark × MarkMode :=
  if c == '"' then ([.quotes], .inWord)
  else if c == '\\' then ([], .escapedInDouble)
  else if c == '$' then ([], .dollar true)
  else ([.quoted c], .double)

/-- A character behind a mark, between double quotes or not. -/
def stepBehind (m : Mark) (isQuoted : Bool) (c : Char) : List Mark × MarkMode :=
  let next := if isQuoted then doubleStep c else plainStep false c
  (m :: next.1, next.2)

/-- A parameter whose name has been read, the last character first. -/
def parameter (soFar : List Char) (isQuoted : Bool) : Mark :=
  .parameter (String.ofList soFar.reverse) isQuoted

/-- One character of a script: the marks that it completes and where that leads. -/
def step : MarkMode → Char → List Mark × MarkMode
  | .wordStart, c => plainStep true c
  | .inWord, c => plainStep false c
  | .comment, c => if c == '\n' then ([.plain c], .wordStart) else ([], .comment)
  | .escaped, c => if c == '\n' then ([], .inWord) else ([.quoted c], .inWord)
  | .single, c => if c == '\'' then ([.quotes], .inWord) else ([.quoted c], .single)
  | .double, c => doubleStep c
  | .escapedInDouble, c =>
    if c == '\n' then ([], .double)
    else if isEscapedInDouble c then ([.quoted c], .double)
    else ([.quoted '\\', .quoted c], .double)
  | .dollar isQuoted, c =>
    if isSpecialName c then ([parameter [c] isQuoted], behind isQuoted)
    else if beginsName c then ([], .name isQuoted [c])
    else if c == '{' then ([], .braces isQuoted [])
    else stepBehind (.quoted '$') isQuoted c
  | .name isQuoted soFar, c =>
    if isNameChar c then ([], .name isQuoted (c :: soFar))
    else stepBehind (parameter soFar isQuoted) isQuoted c
  | .braces isQuoted soFar, c =>
    if c == '}' then ([parameter soFar isQuoted], behind isQuoted)
    else ([], .braces isQuoted (c :: soFar))

/-- The marks that the end of a script completes; there are none if something is not
closed. -/
def finish : MarkMode → Option (List Mark)
  | .wordStart | .inWord | .comment => some []
  | .escaped => some [.quoted '\\']
  | .dollar false => some [.quoted '$']
  | .name false soFar => some [parameter soFar false]
  | _ => none

end MarkMode

/-- Resolves the quoting of a script. -/
def marks (mode : MarkMode) : List Char → Option (List Mark)
  | [] => mode.finish
  | c :: rest => (marks (mode.step c).2 rest).map ((mode.step c).1 ++ ·)

/-! ## Words and operators -/

/-- A word: the marks that it is made of. -/
abbrev Word := List Mark

/-- A word, an operator, or the gap between two of them. -/
inductive Token where
  | word (w : Word)
  | gap
  | newline
  | semicolon
  | endOfArm
  | ifSucceeded
  | ifFailed
  | ampersand
  | bar
  | opening
  | closing
  | inputFrom
  | outputTo (stream : Option Char) (appends : Bool)
  deriving DecidableEq, Repr

/-- Puts a mark in front of some tokens: into the word that they begin with, if they
do. A digit right in front of an output says which stream that is of. -/
def extendToken (m : Mark) : List Token → List Token
  | .word w :: rest => .word (m :: w) :: rest
  | .outputTo (some d) appends :: rest => .word [m, .plain d] :: .outputTo none appends :: rest
  | .outputTo none appends :: rest =>
    match m with
    | .plain c =>
      if c.isDigit then .outputTo (some c) appends :: rest
      else .word [m] :: .outputTo none appends :: rest
    | m => .word [m] :: .outputTo none appends :: rest
  | ts => .word [m] :: ts

/-- Puts a plain character in front of some tokens. -/
def addPlain (c : Char) (ts : List Token) : List Token :=
  match c, ts with
  | ' ', ts | '\t', ts => .gap :: ts
  | '\n', ts => .newline :: ts
  | '(', ts => .opening :: ts
  | ')', ts => .closing :: ts
  | '<', ts => .inputFrom :: ts
  | ';', .semicolon :: rest => .endOfArm :: rest
  | ';', ts => .semicolon :: ts
  | '>', .outputTo none false :: rest => .outputTo none true :: rest
  | '>', ts => .outputTo none false :: ts
  | '&', .ampersand :: rest => .ifSucceeded :: rest
  | '&', ts => .ampersand :: ts
  | '|', .bar :: rest => .ifFailed :: rest
  | '|', ts => .bar :: ts
  | c, ts => extendToken (.plain c) ts

/-- Puts a mark in front of some tokens. -/
def addMark (m : Mark) (ts : List Token) : List Token :=
  match m with
  | .plain c => addPlain c ts
  | m => extendToken m ts

/-- The words and operators of a script. -/
def tokens (ms : List Mark) : List Token := (ms.foldr addMark []).filter (· ≠ .gap)

/-! ## Commands -/

/-- Where the output of a stream is sent: to where another stream goes, or to a
file. -/
inductive Redirection where
  | same (stream other : Char)
  | file (stream : Char) (appends : Bool) (target : Word)
  | input (source : Word)
  deriving DecidableEq, Repr

/-- What a script does. -/
inductive Command where
  | nothing
  | simple (assignments : List (String × Word)) (words : List Word)
      (redirections : List Redirection)
  | sequence (first second : Command)
  | ifSucceeded (first second : Command)
  | ifFailed (first second : Command)
  | negation (body : Command)
  | conditional (test yes no : Command)
  | choice (subject : Word) (patterns : List Word) (body others : Command)
  | each (name : String) (words : List Word) (body : Command)
  deriving Repr

/-- A word of plain characters. -/
def Word.ofString (s : String) : Word := s.toList.map .plain

/-- The text of a word that is nothing but plain characters. -/
def Word.plainText? (w : Word) : Option (List Char) :=
  w.mapM fun
    | .plain c => some c
    | _ => none

/-- Whether a text is a name. -/
def isName : List Char → Bool
  | [] => false
  | c :: rest => beginsName c && rest.all isNameChar

/-- The name and the value of an assignment. -/
def Word.assignment? (w : Word) : Option (String × Word) :=
  match w.dropWhile (· ≠ .plain '=') with
  | [] => none
  | _ :: value =>
    match Word.plainText? (w.takeWhile (· ≠ .plain '=')) with
    | some name => if isName name then some (String.ofList name, value) else none
    | none => none

/-- A keyword as a token. -/
def keyword (s : String) : Token := .word (.ofString s)

/-- The tokens that end a list of commands. -/
def closers : List Token :=
  [.endOfArm, keyword "then", keyword "elif", keyword "else", keyword "fi", keyword "do",
    keyword "done", keyword "esac", keyword "\x7d"]

/-- Whether a token ends a command. -/
def endsCommand (t : Token) : Bool := t == .newline || t == .semicolon

/-- Leaves out ends of commands. -/
def skipEnds (ts : List Token) : List Token := ts.dropWhile endsCommand

/-- Takes a token off. -/
def expect (t : Token) : List Token → Option (List Token)
  | u :: rest => if u = t then some rest else none
  | [] => none

/-- The words and redirections of a simple command, and what follows. -/
def readParts : List Token → (List Word × List Redirection) × List Token
  | .outputTo stream _ :: .ampersand :: .word [.plain d] :: rest =>
    let (parts, rest) := readParts rest
    ((parts.1, .same (stream.getD '1') d :: parts.2), rest)
  | .outputTo stream appends :: .word w :: rest =>
    let (parts, rest) := readParts rest
    ((parts.1, .file (stream.getD '1') appends w :: parts.2), rest)
  | .inputFrom :: .word w :: rest =>
    let (parts, rest) := readParts rest
    ((parts.1, .input w :: parts.2), rest)
  | .word w :: rest =>
    let (parts, rest) := readParts rest
    ((w :: parts.1, parts.2), rest)
  | ts => (([], []), ts)

/-- Splits the assignments off that some words begin with. -/
def splitAssignments : List Word → List (String × Word) × List Word
  | [] => ([], [])
  | w :: rest =>
    match w.assignment? with
    | some a =>
      let (assignments, words) := splitAssignments rest
      (a :: assignments, words)
    | none => ([], w :: rest)

/-- Reads a simple command, which has at least one word or redirection. -/
def readSimple (ts : List Token) : Option (Command × List Token) :=
  match readParts ts with
  | (([], []), _) => none
  | ((words, redirections), rest) =>
    let (assignments, words) := splitAssignments words
    some (.simple assignments words redirections, rest)

/-- The words up to the end of a command. -/
def readWords : List Token → List Word × List Token
  | .word w :: rest =>
    let (words, rest) := readWords rest
    (w :: words, rest)
  | ts => ([], ts)

/-- The patterns of an arm of a choice, which bars stand between. -/
def readPatterns : List Token → Option (List Word × List Token)
  | .word w :: .bar :: rest => (readPatterns rest).map fun (ws, rest) => (w :: ws, rest)
  | .word w :: .closing :: rest => some ([w], rest)
  | _ => none

/-- The words that a command is run for: those behind `in`, or all the arguments. -/
def readRange (ts : List Token) : Option (List Word × List Token) :=
  match expect (keyword "in") ts with
  | some rest => some (readWords rest)
  | none => some ([[.parameter "@" true, .quotes]], ts)

mutual
/-- Reads commands up to the end or to a token that ends a list. -/
def readList : (fuel : Nat) → List Token → Option (Command × List Token)
  | 0, _ => none
  | fuel + 1, ts =>
    match skipEnds ts with
    | [] => some (.nothing, [])
    | t :: rest =>
      if t ∈ closers then some (.nothing, t :: rest)
      else do
        let (first, rest) ← readCommand fuel (t :: rest)
        let (first, rest) ← readJoined fuel first rest
        let (second, rest) ← readList fuel rest
        return (.sequence first second, rest)

/-- Reads what is joined to a command. -/
def readJoined : (fuel : Nat) → Command → List Token → Option (Command × List Token)
  | 0, _, _ => none
  | fuel + 1, first, .ifSucceeded :: rest => do
    let (second, rest) ← readCommand fuel (skipEnds rest)
    readJoined fuel (.ifSucceeded first second) rest
  | fuel + 1, first, .ifFailed :: rest => do
    let (second, rest) ← readCommand fuel (skipEnds rest)
    readJoined fuel (.ifFailed first second) rest
  | _ + 1, first, [] => some (first, [])
  | _ + 1, first, t :: rest =>
    if endsCommand t then some (first, rest)
    else if t = .endOfArm then some (first, t :: rest)
    else none

/-- Reads a single command. -/
def readCommand : (fuel : Nat) → List Token → Option (Command × List Token)
  | 0, _ => none
  | fuel + 1, ts =>
    match ts with
    | [] => none
    | t :: rest =>
      if t = keyword "if" then readConditional fuel rest
      else if t = keyword "for" then readEach fuel rest
      else if t = keyword "case" then readChoice fuel rest
      else if t = keyword "!" then
        (readCommand fuel rest).map fun (body, rest) => (.negation body, rest)
      else if t = keyword "\x7b" then do
        let (body, rest) ← readList fuel rest
        return (body, ← expect (keyword "\x7d") rest)
      else if t ∈ closers then none
      else readSimple (t :: rest)

/-- Reads a conditional behind its keyword. -/
def readConditional : (fuel : Nat) → List Token → Option (Command × List Token)
  | 0, _ => none
  | fuel + 1, ts => do
    let (test, rest) ← readList fuel ts
    let (yes, rest) ← readList fuel (← expect (keyword "then") rest)
    match expect (keyword "elif") rest with
    | some rest => do
      let (no, rest) ← readConditional fuel rest
      return (.conditional test yes no, rest)
    | none =>
      match expect (keyword "else") rest with
      | some rest => do
        let (no, rest) ← readList fuel rest
        return (.conditional test yes no, ← expect (keyword "fi") rest)
      | none => return (.conditional test yes .nothing, ← expect (keyword "fi") rest)

/-- Reads a command for each of some words, behind its keyword. -/
def readEach : (fuel : Nat) → List Token → Option (Command × List Token)
  | fuel + 1, .word name :: rest => do
    let name ← Word.plainText? name
    let (words, rest) ← readRange rest
    let (body, rest) ← readList fuel (← expect (keyword "do") (skipEnds rest))
    return (.each (String.ofList name) words body, ← expect (keyword "done") rest)
  | _, _ => none

/-- Reads a choice behind its keyword. -/
def readChoice : (fuel : Nat) → List Token → Option (Command × List Token)
  | fuel + 1, .word subject :: rest => do
    readArms fuel subject (skipEnds (← expect (keyword "in") rest))
  | _, _ => none

/-- Reads the arms of a choice. -/
def readArms : (fuel : Nat) → Word → List Token → Option (Command × List Token)
  | 0, _, _ => none
  | fuel + 1, subject, ts =>
    match expect (keyword "esac") ts with
    | some rest => some (.nothing, rest)
    | none => do
      let (patterns, rest) ← readPatterns ((expect .opening ts).getD ts)
      let (body, rest) ← readList fuel rest
      let (others, rest) ← readArms fuel subject (skipEnds ((expect .endOfArm rest).getD rest))
      return (.choice subject patterns body others, rest)
end

/-- The command that a script is. -/
def readScript (s : String) : Option Command := do
  let ts := tokens (← marks .wordStart s.toList)
  match ← readList (4 * ts.length + 4) ts with
  | (command, []) => return command
  | _ => none

end OwnerBuild.Shell
