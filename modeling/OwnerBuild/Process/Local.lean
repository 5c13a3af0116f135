/-
# OwnerBuild.Process.Local -- running the scripts of a file tree

A launcher that runs what is in the file tree. The command is run in its
directory; its name is a path if it holds a slash, and else is looked for where
the system keeps its programs, none of which is of use here. The one program that
the system has is its shell.

A file is run if it may be and says by which interpreter: the interpreter is run
instead, with what the first line says behind it, the path of the file, and the
arguments. An interpreter may be such a file itself, up to a number of files.

Where programs are run in this way the console knows the emoji of `Markup.Names`.
-/

import OwnerBuild.Markup.Names
import OwnerBuild.Process.Basic
import OwnerBuild.Shell.Run

namespace OwnerBuild

/-! ## Refusals -/

/-- The system's wording of a refusal. -/
def Fault.reason : Fault → String
  | .missing => "No such file or directory"
  | .notFolder => "Not a directory"
  | .tooLong => "File name too long"
  | .tooManyLinks => "Too many levels of symbolic links"

/-- A refusal to run a program, with the program as its subject. -/
def Answer.refusal (number : Int) (reason program : String) : Answer :=
  .refused (.numbered number reason (some (Text.quote program)))

/-- A refusal for a reason that the file tree gives. -/
def Answer.ofFault (e : Fault) (program : String) : Answer := .refusal e.number e.reason program

/-- A refusal to run something that is not to be run. -/
def Answer.notPermitted (program : String) : Answer := .refusal 13 "Permission denied" program

/-- A refusal to run something that says no interpreter. -/
def Answer.notRunnable (program : String) : Answer := .refusal 8 "Exec format error" program

/-- A refusal to change to a directory. -/
def Answer.noDirectory (e : Fault) (directory : Path) : Answer :=
  .refused (.numbered e.number e.reason (some ("PosixPath(" ++ Text.quote directory.text ++ ")")))

namespace Local

/-- Whether the system takes some words: none of them holds a NUL. -/
def isPassable (words : List String) : Bool := words.all fun w => !w.toList.contains '\x00'

/-! ## Interpreters -/

/-- The paths of the shell. -/
def shells : List String := ["/bin/sh", "/usr/bin/sh", "/bin/dash", "/usr/bin/dash"]

/-- The characters of a file that are looked at for its interpreter. -/
def interpreterWindow : Nat := 256

/-- The interpreter that a file names in its first line, and the one argument for it
that may stand behind. -/
def interpreter? (content : String) : Option (String × Option String) :=
  match content.toList.take interpreterWindow with
  | '#' :: '!' :: rest =>
    let isGap := fun c => c == ' ' || c == '\t'
    let line := ((rest.takeWhile (· != '\n')).dropWhile isGap).reverse.dropWhile isGap |>.reverse
    let name := line.takeWhile (!isGap ·)
    let isCut := !rest.contains '\n' && !(rest.dropWhile isGap).any isGap &&
      content.length > interpreterWindow
    if name = [] || isCut then none
    else
      let argument := (line.dropWhile (!isGap ·)).dropWhile isGap
      some (String.ofList name, if argument = [] then none else some (String.ofList argument))
  | _ => none

/-! ## The shell -/

/-- The status of the shell when it cannot do what it is told. -/
def unusableStatus : Nat := 2

/-- The outcome of a shell that has ended. -/
def ended (s : Shell.RunState) (flow : Shell.Flow) : Answer × FileTree :=
  let status : Int := match flow with
    | .killed signal => -(signal : Int)
    | _ => s.status
  (.finished s.output.reverse s.errors.reverse status, s.files)

/-- Runs the shell in a directory: options, the path of a script, and its arguments. -/
def runShell (t : FileTree) (directory : Place) (arguments : List String) : Answer × FileTree :=
  let unusable : Answer × FileTree := (.finished [] [] unusableStatus, t)
  match ({} : Shell.Options).read arguments with
  | none => unusable
  | some (_, []) => (.finished [] [] 0, t)
  | some (options, name :: arguments) =>
    match (t.locateText directory name).toOption.bind t.find? with
    | some (.file content _) =>
      match Shell.readScript content with
      | none => unusable
      | some script =>
        let start : Shell.RunState :=
          { name, arguments, directory, files := t, options }
        let (s, flow) := Shell.runCommand false start script
        ended s flow
    | _ => unusable

/-! ## Launching -/

/-- The files on the way to a program that the system goes through. -/
def scriptBudget : Nat := 5

/-- Runs the program at a path, going through at most `budget` files that name an
interpreter. The command is the one that the program sees; a refusal is about the
program that was asked for first. -/
def runProgram (t : FileTree) (directory : Place) (asked : String) :
    (budget : Nat) → (program : String) → (command : List String) → Answer × FileTree
  | budget, program, command =>
    if shells.contains program then runShell t directory command.tail
    else match t.locateText directory program with
      | .error e => (.ofFault e asked, t)
      | .ok there =>
        match t.find? there, budget with
        | some (.file content true), budget + 1 =>
          match interpreter? content with
          | none => (.notRunnable asked, t)
          | some (interpreter, argument) =>
            runProgram t directory asked budget interpreter
              (interpreter :: argument.toList ++ program :: command.tail)
        | some (.file _ true), 0 => (.ofFault .tooManyLinks asked, t)
        | _, _ => (.notPermitted asked, t)

/-- Runs a command in a directory. -/
def runIn (t : FileTree) (directory : Place) (command : List String) : Answer × FileTree :=
  let program := command.headD ""
  if program.toList.contains '/' then
    runProgram t directory program scriptBudget program command
  else if ["", ".", ".."].contains program then (.notPermitted program, t)
  else if program.utf8ByteSize > FileTree.longestName then (.ofFault .tooLong program, t)
  else (.ofFault .missing program, t)

/-- The launcher that runs the scripts of the file tree. -/
def launcher : Launcher := fun v s =>
  if isPassable (s.directory.text :: s.command) then
    match v.enter s.directory.text with
    | .ok inside => some (runIn v.files inside.directory s.command)
    | .error (.refused e) => some (.noDirectory e s.directory, v.files)
    | .error _ => some (.noDirectory .missing s.directory, v.files)
  else none

end Local

end OwnerBuild
