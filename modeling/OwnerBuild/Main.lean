/-
# OwnerBuild.Main -- the program

The program reads its arguments, the two environment variables, and as much of the
file system as its arguments can be about: the folders around the working
directory and around each argument, and in each of them the files that mark a
workspace and those that the arguments and the environment name. Everything
after that is the command line's action on this world; what it printed and noted
is written out in order, and its status is the program's. Changes to be watched
for are read from standard input.

Programs are run by the launcher for local scripts. A file counts as runnable if
it begins as a script does.
-/

import OwnerBuild.Cli.Program
import OwnerBuild.Console.Plain
import OwnerBuild.Process.Local
import OwnerBuild.Watch.Feed

namespace OwnerBuild.Main

/-! ## Reading the file system -/

/-- The paths of the folders around a path, the path itself included. -/
def around (p : Path) : List Path :=
  (List.range (p.parts.length + 1)).map fun n => ⟨p.anchor, p.parts.take n⟩

/-- The path that a path leads to, if anything is there. -/
def target? (p : Path) : IO (Option Path) := do
  try
    return some (.ofText (toString (← IO.FS.realPath ⟨p.text⟩)))
  catch _ => return none

/-- What stands at a path whose folder is no link: a link if the path leads
elsewhere, else a file if it can be read, else a folder. -/
def node? (p : Path) : IO (Option Node) := do
  match ← target? p with
  | none => return none
  | some there =>
    if there ≠ p then return some (.link there.text)
    try
      let content := (String.fromUTF8? (← IO.FS.readBinFile ⟨p.text⟩)).getD ""
      return some (.file content (content.startsWith "#!"))
    catch _ => return some (.folder [])

/-- Adds what stands at a path to a file tree, if it has the folder around it. -/
def readNode (t : FileTree) (p : Path) : IO FileTree := do
  let place : Place := p.parts.reverse
  match t.find? place.tail, t.find? place with
  | some (.folder _), none =>
    match ← node? p with
    | none => return t
    | some n => return t.insert place n
  | _, _ => return t

/-- The file tree around some absolute paths: the folders around each of them and
around what it leads to, and in each folder the names that are of interest. -/
def readAround (names : List Path) (ps : List Path) : IO FileTree := do
  let targets ← ps.filterMapM target?
  let folders := Path.sortedSet ((ps ++ targets).flatMap around)
  let inside := folders.flatMap fun folder => names.map folder.join
  (folders ++ Path.sortedSet (inside.flatMap around)).foldlM readNode ⟨[]⟩

/-! ## Writing events -/

/-- Writes an event out, given the level from which on notes are written; gives the
level that holds after it. -/
def writeEvent (least : Log.Level) (e : Event) : IO Log.Level := do
  match e with
  | .printed item =>
    let out ← match item.stream with
      | .output => IO.getStdout
      | .errors => IO.getStderr
    for line in item.plainLines do out.putStrLn line
    return least
  | .noted n =>
    if least.rank ≤ n.level.rank then
      (← IO.getStderr).putStrLn (n.level.text ++ " " ++ n.source.text ++ ": " ++ n.text)
    return least
  | .logLevel level => return level
  | _ => return least

/-- Runs the program. -/
def run (args : List String) : IO UInt32 := do
  let env : Environment :=
    { executable := ← IO.getEnv Environment.executableName
      buildFlags := ← IO.getEnv Environment.buildFlagsName }
  let here := Path.ofText (toString (← IO.currentDir))
  let names := Workspace.markers.map (fun marker => (⟨.relative, [marker]⟩ : Path)) ++
    (env.executable.toList ++ args).map Path.ofText
  let files ← readAround names (here :: args.map fun a => here.join (.ofText a))
  let stream ← if args.contains "watch" then
      pure (Watch.Stream.ofText (← (← IO.getStdin).readToEnd))
    else pure ⟨[], .stop⟩
  let world : World := ⟨{ files, directory := here.place }, Local.launcher⟩
  let outcome := (Cli.runMain env stream args).run world
  let _ ← outcome.events.foldlM writeEvent .warning
  match outcome.result with
  | .ok status => return UInt32.ofNat status
  | .error e =>
    (← IO.getStderr).putStrLn e.message
    return 1

end OwnerBuild.Main

/-- The program's entry. -/
def main (args : List String) : IO UInt32 := OwnerBuild.Main.run args
