/-
# OwnerBuild.Shell.State -- what a running script has

A running script has a name and arguments, the parameters it has set, a directory,
and the options of its shell; what it has done so far is a file tree and the
bytes of two streams. Where a stream of a command is sent is a stream, a file, or
nowhere.
-/

import OwnerBuild.FileTree.Change
import OwnerBuild.Text.Utf8

namespace OwnerBuild.Shell

/-! ## Options -/

/-- What a shell can be told about running a script: to stop at a command that
fails, to stop at a parameter that is not set, to say each command on the stream of
errors, and to run nothing. -/
structure Options where
  stopsAtFailure : Bool := false
  stopsAtUnset : Bool := false
  traces : Bool := false
  onlyReads : Bool := false
  deriving DecidableEq, Repr, Inhabited

namespace Options

/-- The letters of options that make no difference to what a script does here. -/
def indifferentLetters : List Char := ['a', 'b', 'f', 'v', 'C', 'E', 'I', 'V']

/-- Sets or takes back the option of a letter, if there is one. -/
def withLetter (s : Options) (value : Bool) (letter : Char) : Option Options :=
  if letter == 'e' then some { s with stopsAtFailure := value }
  else if letter == 'u' then some { s with stopsAtUnset := value }
  else if letter == 'x' then some { s with traces := value }
  else if letter == 'n' then some { s with onlyReads := value }
  else if indifferentLetters.contains letter then some s
  else none

/-- Sets or takes back the options of some letters. -/
def withLetters (s : Options) (value : Bool) : List Char → Option Options
  | [] => some s
  | letter :: rest => (s.withLetter value letter).bind fun s => s.withLetters value rest

/-- The letter of an option that is given by its name. -/
def letterOf (name : String) : Option Char :=
  [("errexit", 'e'), ("nounset", 'u'), ("xtrace", 'x'), ("noexec", 'n'), ("allexport", 'a'),
    ("notify", 'b'), ("noglob", 'f'), ("verbose", 'v'), ("noclobber", 'C')].lookup name

/-- Reads the options of a shell: words that begin with a sign and hold letters, of
which `o` is for a name in the next word. What is left are the other words; a single
or double dash ends the options. -/
def read (s : Options) : List String → Option (Options × List String)
  | [] => some (s, [])
  | word :: rest =>
    match word.toList, rest with
    | ['-'], rest | ['-', '-'], rest => some (s, rest)
    | '-' :: 'o' :: [], name :: rest =>
      ((letterOf name).bind (s.withLetter true)).bind fun s => s.read rest
    | '+' :: 'o' :: [], name :: rest =>
      ((letterOf name).bind (s.withLetter false)).bind fun s => s.read rest
    | '-' :: letters, rest => (s.withLetters true letters).bind fun s => s.read rest
    | '+' :: letters, rest => (s.withLetters false letters).bind fun s => s.read rest
    | _, rest => some (s, word :: rest)

end Options

/-! ## State -/

/-- Where the bytes of a stream are sent. -/
inductive Sink where
  | output
  | errors
  | file (place : Place)
  | nowhere
  deriving DecidableEq

/-- A running script. Streams hold their bytes the last first. -/
structure RunState where
  name : String
  arguments : List String
  directory : Place
  files : FileTree
  options : Options := {}
  parameters : List (String × String) := []
  output : List UInt8 := []
  errors : List UInt8 := []
  outputSink : Sink := .output
  errorSink : Sink := .errors
  status : Nat := 0

/-- Whether a script goes on. -/
inductive Flow where
  | goesOn
  | exited
  | killed (signal : Nat)
  deriving DecidableEq, Repr

namespace RunState

/-- Sends bytes to a sink. -/
def send (s : RunState) (sink : Sink) (bytes : List UInt8) : RunState :=
  match sink with
  | .output => { s with output := bytes.reverse ++ s.output }
  | .errors => { s with errors := bytes.reverse ++ s.errors }
  | .nowhere => s
  | .file place =>
    match s.files.find? place with
    | some (.file content executable) =>
      let added := String.ofList (Text.decodeFrom .between bytes)
      { s with files := s.files.insert place (.file (content ++ added) executable) }
    | _ => s

/-- Writes bytes as output. -/
def write (s : RunState) (bytes : List UInt8) : RunState := s.send s.outputSink bytes

/-- Writes a text as a message. -/
def complain (s : RunState) (text : String) : RunState := s.send s.errorSink (Text.encode text)

/-- Sets the status. -/
def withStatus (s : RunState) (status : Nat) : RunState := { s with status }

/-- Sets a parameter. -/
def withParameter (s : RunState) (name value : String) : RunState :=
  { s with parameters := (name, value) :: s.parameters }

end RunState

end OwnerBuild.Shell
