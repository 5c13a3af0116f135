/-
# OwnerBuild.Cli.Program -- the whole command line

The command line is a program with global options, commands, and one group of
commands for servers. It is read in steps: the global options, the name of the
command, then, with the checkers set up as the global options say, the command's
own options and arguments. A misuse that shows in an earlier step wins over one
in a later step. Some options ask for something to be shown instead, such as help,
which can be asked for in each step; they end the program there with status 0.
-/

import OwnerBuild.Cli.Arguments
import OwnerBuild.Tools
import OwnerBuild.Watch.Watcher

namespace OwnerBuild.Cli

open Console (Item inStyle)

/-! ## Options and commands -/

/-- The option that asks for help. -/
def helpOption : OptionSpec := ⟨["--help", "-h"], false⟩

/-- The options that ask for the completions of a shell to be installed or shown. -/
def completionOptions : List OptionSpec :=
  [⟨["--install-completion"], false⟩, ⟨["--show-completion"], false⟩]

/-- The options that ask for something to be shown and nothing to be run. -/
def showingOptions : List OptionSpec := helpOption :: completionOptions

/-- The global options. -/
def globalOptions : List OptionSpec :=
  [⟨["--bazel"], true⟩, ⟨["--flag"], true⟩, ⟨["--format"], true⟩, ⟨["--verbose", "-v"], false⟩] ++
    showingOptions

/-- The options of a command for a file. -/
def commandOptions : List OptionSpec := [helpOption]

/-- The options of the command that starts a server. -/
def serverOptions : List OptionSpec := [⟨["--transport"], true⟩, helpOption]

/-- The commands. -/
inductive Command where
  | root
  | targets
  | command
  | check
  | verify
  | watch
  | serve
  deriving DecidableEq, Repr

/-- The names of the commands. -/
def commandNames : List (String × Command) :=
  [("root", .root), ("targets", .targets), ("command", .command), ("check", .check),
    ("verify", .verify), ("watch", .watch), ("serve", .serve)]

/-- The name of the command that starts a server. -/
def serverCommandName : String := "mcp"

/-! ## Reading in steps -/

/-- What a step of reading comes to: something is to be shown, or there is more to
do. -/
inductive Step (α : Type) where
  | shown
  | proceed (x : α)

/-- Goes on unless something is to be shown. -/
def Step.andThen {α : Type} (next : α → Action Nat) : Step α → Action Nat
  | .shown => return 0
  | .proceed x => next x

/-- Takes a part of a command line apart; asking for something to be shown wins over
everything but a misuse of options. -/
def readOptions (specs : List OptionSpec) (mixed : Bool) (args : List String) :
    Except Misuse (Step Parsed) :=
  (parse specs mixed args).map fun parsed =>
    if showingOptions.any fun spec => parsed.has spec.mainName then .shown else .proceed parsed

/-- Looks a command up by the first word behind the options. A word that is no
name is read as an option once more, for the misuse that it may be. -/
def lookUp {α : Type} (specs : List OptionSpec) (commands : List (String × α)) :
    List String → Except Misuse (Step (α × List String))
  | [] => .error .other
  | word :: rest =>
    match commands.lookup word with
    | some c => .ok (.proceed (c, rest))
    | none => do
      match ← readOptions specs false (word :: rest) with
      | .shown => return .shown
      | .proceed _ => .error .other

/-- The path that an argument is, if the system can be asked about it. -/
def pathArgument (a : String) : Except Misuse Path :=
  if (Path.ofText a).anyNul then .error .nulInPath else .ok (.ofText a)

/-- The single argument of a command, or what stands for it. -/
def singleArgument (absent : Option Path) : List String → Except Misuse Path
  | [] => match absent with
    | some p => .ok p
    | none => .error .missingArgument
  | a :: others =>
    (pathArgument a).bind fun p => if others = [] then .ok p else .error .other

/-- Reads the part of a command line that belongs to a command with one argument. -/
def readArgument (absent : Option Path) (args : List String) :
    Except Misuse (Step Path) := do
  match ← readOptions commandOptions true args with
  | .shown => return .shown
  | .proceed parsed => return .proceed (← singleArgument absent parsed.arguments)

/-- Reads the part of a command line that belongs to the group of server commands;
what is left over is the transport. -/
def readServe (args : List String) : Except Misuse (Step String) := do
  match ← readOptions [helpOption] false args with
  | .shown => return .shown
  | .proceed parsed =>
    match ← lookUp [helpOption] [(serverCommandName, ())] parsed.arguments with
    | .shown => return .shown
    | .proceed (_, rest) =>
      match ← readOptions serverOptions true rest with
      | .shown => return .shown
      | .proceed parsed =>
        if parsed.arguments = [] then
          return .proceed ((parsed.value? "--transport").getD "stdio")
        else .error .other

/-- The result of a step of reading, as an action. -/
def ofReading {α : Type} (r : Except Misuse α) : Action α :=
  Action.ofExcept (r.mapError .misuse)

/-! ## Running -/

/-- The checkers that the global options ask for. -/
def configure (env : Environment) (global : Parsed) : Action Registry := do
  Action.emit (.logLevel (if global.has "--verbose" then .debug else .warning))
  let format ← Action.ofExcept <|
    (Format.ofName ((global.value? "--format").getD Format.standard.name)).mapError
      fun e => .misuse (.badFormat e)
  let settings ← Action.ofExcept <|
    (Settings.read env (global.value? "--bazel") (global.values "--flag")).mapError .words
  let registry ← Action.ofExcept <|
    Registry.empty.register ⟨Checker.standardName, settings, format⟩
  Action.note (.registered Checker.standardName)
  return registry

variable [Markup.EmojiTable]

/-- Watches a directory and checks what changes, until the stream of changes ends or
has nothing more to say. Each call of the checks is one step of the watch. -/
def watch (r : Registry) (directory : Path) (stream : Watch.Stream) : Action Nat := do
  let plan := Watch.Plan.create directory r.extensions fun _ paths => Watch.checkChanged r paths
  Action.print (.markup (inStyle "green"
    ("Watching " ++ Markup.escapeString directory.text) ++ " (Ctrl+C to stop)"))
  match ← Watch.watchStream plan stream with
  | .stopped => return 0
  | .interrupted =>
    Action.print (.markup "Stopped.")
    return 0

/-- Runs a command with the rest of the command line. -/
def runCommand (r : Registry) (stream : Watch.Stream) (c : Command) (args : List String) :
    Action Nat := do
  let onFile (run : Path → Action Nat) : Action Nat := do
    (← ofReading (readArgument none args)).andThen run
  match c with
  | .root => onFile root
  | .targets => onFile (targets r)
  | .command => onFile (command r)
  | .check => onFile (check r)
  | .verify => onFile (verify r)
  | .watch => (← ofReading (readArgument (some ⟨.relative, []⟩) args)).andThen (watch r · stream)
  | .serve => (← ofReading (readServe args)).andThen fun transport => do
    Tools.serve r transport
    return 0

/-- Runs a command line and has the status that it exits with. -/
def run (env : Environment) (stream : Watch.Stream) (args : List String) : Action Nat :=
  if args = [] then Action.fail (.misuse .noArguments)
  else do
    (← ofReading (readOptions globalOptions false args)).andThen fun global => do
      (← ofReading (lookUp globalOptions commandNames global.arguments)).andThen
        fun (c, rest) => do
          let registry ← configure env global
          runCommand registry stream c rest

/-- The status that a misuse of the command line exits with. -/
def misuseStatus : Nat := 2

/-- Runs a command line as a program does: a misuse is a status too. -/
def runMain (env : Environment) (stream : Watch.Stream) (args : List String) : Action Nat := do
  match ← (run env stream args).attempt with
  | .ok status => return status
  | .error (.misuse _) => return misuseStatus
  | .error e => Action.fail e

end OwnerBuild.Cli
