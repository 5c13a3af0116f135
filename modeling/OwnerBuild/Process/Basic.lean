/-
# OwnerBuild.Process.Basic -- starting programs

A start is a command and the directory that it is run in. A launcher answers a
start: the program has run, with the bytes it wrote and its status, or it could
not be run at all. A program may change files, so a launcher also says what the
file tree is afterwards. A status below zero is the number of the signal that
ended the program. A launcher may have no answer to a start that cannot even be
handed to the system.

Besides launchers that run something there are those that answer from a list of
responses: the first response that applies to a start is its answer.
-/

import OwnerBuild.FileTree.Resolve
import OwnerBuild.Text.Quoted

namespace OwnerBuild

/-! ## Starts and answers -/

/-- A command with its arguments, and where it is run. -/
structure Start where
  command : List String
  directory : Path
  deriving DecidableEq

/-- Why a program could not be run. The subject is what the refusal is about, as
it is shown. -/
inductive LaunchError where
  | numbered (number : Int) (reason : String) (subject : Option String)
  | worded (text : String)
  | silent
  deriving DecidableEq, Repr

/-- The wording of a refusal. -/
def LaunchError.text : LaunchError → String
  | .numbered number reason none => "[Errno " ++ toString number ++ "] " ++ reason
  | .numbered number reason (some subject) =>
    "[Errno " ++ toString number ++ "] " ++ reason ++ ": " ++ subject
  | .worded text => text
  | .silent => ""

/-- What comes of a start. -/
inductive Answer where
  | finished (output errors : List UInt8) (status : Int)
  | refused (e : LaunchError)
  deriving DecidableEq

/-- Runs a start, seen from a working directory, if the system takes it. -/
abbrev Launcher := View → Start → Option (Answer × FileTree)

/-! ## Answers from a list -/

/-- A launcher that answers every start, by the start alone, and changes no file. -/
def Launcher.ofAnswers (answer : Start → Answer) : Launcher :=
  fun v s => some (answer s, v.files)

/-- An answer with the starts that it is for: those with a given first argument,
and whose last word contains a given text. -/
structure Response where
  subcommand : Option String := none
  containing : Option String := none
  answer : Answer

/-- Whether a text occurs in another one. -/
def occursIn (s : List Char) : List Char → Bool
  | [] => s.isEmpty
  | c :: rest => s.isPrefixOf (c :: rest) || occursIn s rest

/-- Whether a response is for a start. -/
def Response.applies (r : Response) (s : Start) : Bool :=
  (match r.subcommand with
    | none => true
    | some sub => s.command[1]? == some sub) &&
  (match r.containing with
    | none => true
    | some text =>
      match s.command.getLast? with
      | none => false
      | some last => occursIn text.toList last.toList)

/-- The answer of the first response that applies; without one the program is
taken to have run and to have said nothing. -/
def answerFrom (responses : List Response) (s : Start) : Answer :=
  match responses.find? (·.applies s) with
  | some r => r.answer
  | none => .finished [] [] 0

/-- The launcher that answers from a list. -/
def Launcher.ofResponses (responses : List Response) : Launcher :=
  .ofAnswers (answerFrom responses)

end OwnerBuild
