/-
# OwnerBuild.Shell.Run -- running small scripts

Running a script changes a file tree and writes bytes to two streams; it ends with a
status, or by a signal that the script sends to itself. The commands that scripts
are made of are built in: output, tests, parameters, the working directory, files,
and ending. Any other command is not found, which is said on the stream of errors
and gives the status 127.

A shell can be told to stop at a command that fails. That does not count where the
status is only asked for: in the test of a conditional, on the left of `&&` and `||`,
and under a negation. Running is told so by its first argument.
-/

import OwnerBuild.Shell.Expand
import OwnerBuild.Shell.Output

namespace OwnerBuild.Shell

/-! ## Files -/

/-- The place that a name leads to. -/
def placeOf? (s : RunState) (name : String) : Option Place :=
  (s.files.locateText s.directory name).toOption

/-- The node that a name leads to. -/
def nodeOf? (s : RunState) (name : String) : Option Node := (placeOf? s name).bind s.files.find?

/-- Does something to a file tree for each of some names. -/
def changeFiles (s : RunState) (change : FileTree → Place → Path → FileTree)
    (names : List String) : RunState :=
  { s with files := names.foldl (fun t name => change t s.directory (.ofText name)) s.files }

/-- Whether there is a folder for a name to be in. -/
def hasRoom (s : RunState) (name : String) : Bool :=
  let p := Path.ofText name
  let around := s.files.locateFrom s.directory ⟨p.anchor, p.parts.dropLast⟩
  match around.toOption.bind s.files.find? with
  | some (.folder _) => true
  | _ => false

/-- Makes an empty file where nothing is and one can be. -/
def touch (s : RunState) (names : List String) : RunState :=
  changeFiles s (fun t here p => t.write here p "" false)
    (names.filter fun name => (nodeOf? s name).isNone && hasRoom s name)

/-- Says of a file that it may be run, or not. -/
def setRunnable (s : RunState) (executable : Bool) (name : String) : RunState :=
  match placeOf? s name with
  | some place =>
    match s.files.find? place with
    | some (.file content _) => { s with files := s.files.insert place (.file content executable) }
    | _ => s
  | none => s

/-- Whether a mode lets a file be run. -/
def modeRuns? (mode : String) : Option Bool :=
  if ["+x", "a+x", "u+x"].contains mode then some true
  else if ["-x", "a-x", "a=r"].contains mode then some false
  else if mode ≠ "" ∧ mode.toList.all (fun c => '0' ≤ c ∧ c ≤ '7') then
    some (mode.toList.any fun c => (c.toNat - '0'.toNat) % 2 = 1)
  else none

/-! ## Tests -/

/-- The comparisons of numbers. -/
def compare? (name : String) (a b : Int) : Option Bool :=
  if name = "-eq" then some (a = b)
  else if name = "-ne" then some (a ≠ b)
  else if name = "-lt" then some (a < b)
  else if name = "-le" then some (a ≤ b)
  else if name = "-gt" then some (a > b)
  else if name = "-ge" then some (a ≥ b)
  else none

/-- A test of what a name leads to. -/
def nodeTest? (option : String) (n : Option Node) : Option Bool :=
  match option, n with
  | "-e", n | "-r", n | "-w", n => some n.isSome
  | "-f", some (.file ..) => some true
  | "-d", some (.folder _) => some true
  | "-s", some (.file content _) => some (content ≠ "")
  | "-x", some (.file _ executable) => some executable
  | "-x", some (.folder _) | "-s", some (.folder _) => some true
  | "-f", _ | "-d", _ | "-s", _ | "-x", _ => some false
  | _, _ => none

/-- Whether a test holds; there is no answer to one that is not understood. -/
def testHolds (s : RunState) : List String → Option Bool
  | [] => some false
  | [a] => some (a ≠ "")
  | ["!", a] => some (a = "")
  | ["-n", a] => some (a ≠ "")
  | ["-z", a] => some (a = "")
  | [option, a] => nodeTest? option (nodeOf? s a)
  | [a, "=", b] => some (a = b)
  | [a, "!=", b] => some (a ≠ b)
  | ["!", a, b] => (testHolds s [a, b]).map (!·)
  | [a, name, b] =>
    match a.toInt?, b.toInt? with
    | some a, some b => compare? name a b
    | _, _ => none
  | ["!", a, b, c] => (testHolds s [a, b, c]).map (!·)
  | _ => none

/-- The status of a test. -/
def testStatus (s : RunState) (args : List String) : Nat :=
  match testHolds s args with
  | some true => 0
  | some false => 1
  | none => 2

/-! ## Ending -/

/-- The status after a script that was given a number to exit with. -/
def exitNumber (s : RunState) : List String → Nat
  | [] => s.status
  | a :: _ => (a.toNat?.getD 2) % 256

/-- The signals that end a script, with their numbers. -/
def signals : List (String × Nat) :=
  [("HUP", 1), ("INT", 2), ("QUIT", 3), ("ILL", 4), ("TRAP", 5), ("ABRT", 6), ("BUS", 7),
    ("FPE", 8), ("KILL", 9), ("USR1", 10), ("SEGV", 11), ("USR2", 12), ("PIPE", 13), ("ALRM", 14),
    ("TERM", 15)]

/-- The number of a signal that is given by name or number. -/
def signalOf? (name : String) : Option Nat :=
  match name.toNat? with
  | some n => some n
  | none => signals.lookup name

/-- The signal that is sent to which process. -/
def readKill : List String → Option (Nat × String)
  | [target] => some (15, target)
  | ["-s", name, target] => (signalOf? name).map (·, target)
  | [option, target] =>
    match option.toList with
    | '-' :: name => (signalOf? (String.ofList name)).map (·, target)
    | _ => none
  | _ => none

/-! ## Simple commands -/

/-- A state in which the last command had a status, and the script goes on. -/
def RunState.goOn (s : RunState) (status : Nat) : RunState × Flow := (s.withStatus status, .goesOn)

/-- Takes off the first arguments of a script. -/
def shift (s : RunState) (count : Nat) : RunState × Flow :=
  if count ≤ s.arguments.length then
    ({ s with arguments := s.arguments.drop count }).goOn 0
  else (s.complain (s.name ++ ": 1: shift: can't shift that many\n") |>.withStatus 2, .exited)

/-- Writes the contents of files. -/
def showFiles (s : RunState) : List String → RunState × Flow
  | [] => s.goOn 0
  | name :: rest =>
    match nodeOf? s name with
    | some (.file content _) => showFiles (s.write (Text.encode content)) rest
    | _ =>
      let complaint := "cat: " ++ name ++ ": No such file or directory\n"
      let (s, flow) := showFiles (s.complain complaint) rest
      (s.withStatus 1, flow)

/-- Changes the working directory of a script. -/
def changeFolder (s : RunState) (name : String) : RunState × Flow :=
  match placeOf? s name with
  | some place =>
    match s.files.find? place with
    | some (.folder _) => ({ s with directory := place }).goOn 0
    | _ => (s.complain (s.name ++ ": 1: cd: can't cd to " ++ name ++ "\n")).goOn 2
  | none => (s.complain (s.name ++ ": 1: cd: can't cd to " ++ name ++ "\n")).goOn 2

/-- Sets what a shell is told and, if there are other words, the arguments. -/
def applyOptions (s : RunState) (args : List String) : RunState × Flow :=
  match s.options.read args with
  | none => (s.withStatus 2, .exited)
  | some (options, rest) =>
    let s := { s with options }
    (if rest = [] ∧ args.getLast? ≠ some "--" then s else { s with arguments := rest }).goOn 0

/-- The words that are no options. -/
def operands (args : List String) : List String := args.filter (!·.startsWith "-")

/-- Sets the parameters of some words that are assignments. -/
def assignWords (s : RunState) (args : List String) : RunState :=
  args.foldl (fun s a =>
    match (Word.ofString a).assignment? with
    | some (name, value) => s.withParameter name (String.ofList (expandText s value))
    | none => s) s

/-- Runs a command by its name. -/
def runNamed (s : RunState) (name : String) (args : List String) : RunState × Flow :=
  let say (bytes : List UInt8) : RunState × Flow := (s.write bytes).goOn 0
  match name, args with
  | ":", _ | "true", _ | "sleep", _ => s.goOn 0
  | "false", _ => s.goOn 1
  | "echo", "-n" :: args => say (echoed (String.intercalate " " args))
  | "echo", args => say (echoed (String.intercalate " " args) ++ [10])
  | "printf", format :: args => say (formatted format args)
  | "pwd", _ => say (Text.encode (Place.path s.directory).text ++ [10])
  | "test", args => s.goOn (testStatus s args)
  | "[", args =>
    if args.getLast? = some "]" then s.goOn (testStatus s args.dropLast) else s.goOn 2
  | "set", args => if args = [] then s.goOn 0 else applyOptions s args
  | "shift", [] => shift s 1
  | "shift", count :: _ => shift s (count.toNat?.getD 1)
  | "export", args => (assignWords s args).goOn 0
  | "cd", name :: _ => changeFolder s name
  | "cat", args => showFiles s (operands args)
  | "rm", args => (changeFiles s FileTree.remove (operands args)).goOn 0
  | "touch", args => (touch s (operands args)).goOn 0
  | "mkdir", args => (changeFiles s FileTree.makeFolderAt (operands args)).goOn 0
  | "chmod", mode :: names =>
    match modeRuns? mode with
    | some executable => (names.foldl (setRunnable · executable) s).goOn 0
    | none => s.goOn 1
  | "exit", args => (s.withStatus (exitNumber s args), .exited)
  | "kill", args =>
    match readKill args with
    | some (signal, target) =>
      if target ≠ ownNumber then s.goOn 1
      else if signal = 0 then s.goOn 0
      else (s, .killed signal)
    | none => s.goOn 2
  | name, _ => (s.complain (s.name ++ ": 1: " ++ name ++ ": not found\n")).goOn 127

/-- Runs a command given by its words; behind `exec` nothing of the script is left. -/
def runWords (s : RunState) : List String → RunState × Flow
  | [] => s.goOn s.status
  | "exec" :: [] => s.goOn 0
  | "exec" :: name :: args =>
    match runNamed s name args with
    | (s, .goesOn) => (s, .exited)
    | ended => ended
  | name :: args => runNamed s name args

/-- Sends the output of a stream to a sink. -/
def RunState.redirect (s : RunState) (stream : Char) (sink : Sink) : RunState :=
  if stream == '1' then { s with outputSink := sink }
  else if stream == '2' then { s with errorSink := sink }
  else s

/-- Opens a file for output; there is none where a folder is or no folder around. -/
def openFile (s : RunState) (appends : Bool) (name : String) : Option (RunState × Sink) :=
  if name = "/dev/null" then some (s, .nowhere)
  else if name = "/dev/stdout" then some (s, s.outputSink)
  else if name = "/dev/stderr" then some (s, s.errorSink)
  else match nodeOf? s name with
    | some (.file content executable) =>
      (placeOf? s name).map fun place =>
        if appends then (s, .file place)
        else ({ s with files := s.files.insert place (.file (if appends then content else "")
                executable) }, .file place)
    | some _ => none
    | none =>
      let s := touch s [name]
      (placeOf? s name).map fun place => (s, .file place)

/-- Redirects the streams of a command. -/
def redirectAll (s : RunState) : List Redirection → Option RunState
  | [] => some s
  | .same stream other :: rest =>
    redirectAll (s.redirect stream (if other == '2' then s.errorSink else s.outputSink)) rest
  | .file stream appends target :: rest =>
    (openFile s appends (String.ofList (expandText s target))).bind fun (s, sink) =>
      redirectAll (s.redirect stream sink) rest
  | .input source :: rest =>
    let name := String.ofList (expandText s source)
    if name = "/dev/null" ∨ (nodeOf? s name).isSome then redirectAll s rest else none

/-- Runs a simple command whose words stand for these. -/
def runExpanded (s : RunState) (redirections : List Redirection) (words : List String) :
    RunState × Flow :=
  let s := if s.options.traces && !words.isEmpty then
      s.complain ("+ " ++ String.intercalate " " words ++ "\n")
    else s
  match redirectAll s redirections with
  | none => s.goOn 2
  | some redirected =>
    let (after, flow) := runWords redirected words
    ({ after with outputSink := s.outputSink, errorSink := s.errorSink }, flow)

/-- Runs a simple command. Assignments count where no command follows them. -/
def runSimple (s : RunState) (assignments : List (String × Word)) (words : List Word)
    (redirections : List Redirection) : RunState × Flow :=
  let unset := if s.options.stopsAtUnset then
      (words ++ assignments.map (·.2)).findSome? (unsetName? s)
    else none
  match unset with
  | some name =>
    (s.complain (s.name ++ ": 1: " ++ name ++ ": parameter not set\n") |>.withStatus 2, .exited)
  | none =>
    let fields := expandWords s words
    let s := if fields.isEmpty then
        assignments.foldl (fun s (name, value) =>
          s.withParameter name (String.ofList (expandText s value))) (s.withStatus 0)
      else s
    runExpanded s redirections fields

/-! ## Running -/

/-- Does something for each of some values of a parameter, as long as it goes on. -/
def forEachValue (run : RunState → RunState × Flow) (name : String) :
    List String → RunState → RunState × Flow
  | [], s => (s, .goesOn)
  | value :: rest, s =>
    match run (s.withParameter name value) with
    | (s, .goesOn) => forEachValue run name rest s
    | ended => ended

/-- Runs a command, and says whether the script goes on. A failure makes a shell stop
that was told so, unless the status is only asked for (`asked`). -/
def runCommand (asked : Bool) (s : RunState) : Command → RunState × Flow
  | .nothing => (s, .goesOn)
  | .simple assignments words redirections =>
    if s.options.onlyReads then (s, .goesOn)
    else
      let (s, flow) := runSimple s assignments words redirections
      if flow = .goesOn ∧ s.options.stopsAtFailure ∧ s.status ≠ 0 ∧ !asked then (s, .exited)
      else (s, flow)
  | .sequence first second =>
    match runCommand asked s first with
    | (s, .goesOn) => runCommand asked s second
    | ended => ended
  | .ifSucceeded first second =>
    match runCommand true s first with
    | (s, .goesOn) => if s.status = 0 then runCommand asked s second else (s, .goesOn)
    | ended => ended
  | .ifFailed first second =>
    match runCommand true s first with
    | (s, .goesOn) => if s.status = 0 then (s, .goesOn) else runCommand asked s second
    | ended => ended
  | .negation body =>
    match runCommand true s body with
    | (s, .goesOn) =>
      if s.options.onlyReads then (s, .goesOn) else s.goOn (if s.status = 0 then 1 else 0)
    | ended => ended
  | .conditional test yes no =>
    match runCommand true s test with
    | (s, .goesOn) =>
      if s.status = 0 then runCommand asked s yes else runCommand asked (s.withStatus 0) no
    | ended => ended
  | .choice subject patterns body others =>
    let text := expandText s subject
    if patterns.any fun w => hasForm (patternOf s w) text then
      runCommand asked (s.withStatus 0) body
    else runCommand asked (s.withStatus 0) others
  | .each name words body =>
    forEachValue (fun s => runCommand asked s body) name (expandWords s words) (s.withStatus 0)

end OwnerBuild.Shell
