/-
# OwnerBuild.Tools -- the tools of the server

The server offers the lookups and the check as tools. A tool answers with a value
or, when a program could not be run, with a text that says so. A server needs the
standard checker; it checks with every checker that applies.
-/

import OwnerBuild.Cli.Report

namespace OwnerBuild.Tools

/-- What the server says about itself. -/
structure ServerInfo where
  name : String
  instructions : String
  tools : List (String × String)
  deriving DecidableEq, Repr

/-- The name of the server. -/
def serverName : String := "bazel-check"

/-- The server and its tools, in the order of their names. -/
def serverInfo : ServerInfo :=
  { name := serverName
    instructions := "Check source files by building the Bazel targets that own them."
    tools :=
      [("check_file", "Build the targets owning a file and return the resulting diagnostics."),
        ("list_targets", "List the rules that directly depend on a file."),
        ("locate_root", "Return the Bazel workspace root enclosing a file, if any."),
        ("verify_file", "Report whether the workspace root and owning targets can be found.")] }

/-- A server: the checkers, and the one that lookups use. -/
structure Server where
  registry : Registry
  checker : Checker

/-- The server for some checkers. -/
def Server.create (r : Registry) : Except Failure Server :=
  (r.get Checker.standardName).map fun c => ⟨r, c⟩

/-- The text for a failure to run a program. -/
def errorText (e : Failure) : String := "Error: " ++ e.message

/-- The root of the workspace around a path. -/
def locateRoot (path : Path) : Action (Option String) := do
  return (← Checker.workspaceOf path).map (·.root.text)

/-- The rules that own a path. -/
def Server.listTargets (s : Server) (path : Path) : Action (Except String (List String)) := do
  match ← (s.checker.prepare path).orLaunchFailure with
  | .error e => return .error (errorText e)
  | .ok none => return .ok []
  | .ok (some p) => return .ok p.targets

/-- Gathers the diagnostics of some checkers behind those found so far. The first program
that could not be run ends it, and nothing that was found is returned then. -/
def gather (path : Path) (found : List Diagnostic) :
    List Checker → Action (Except String (List Diagnostic))
  | [] => return .ok found
  | c :: rest => do
    match ← (c.check path).orLaunchFailure with
    | .error e => return .error (errorText e)
    | .ok none => gather path found rest
    | .ok (some result) => gather path (found ++ result.diagnostics) rest

/-- The diagnostics of a check of a path with every checker that applies to it. -/
def Server.checkFile (s : Server) (path : Path) : Action (Except String (List Diagnostic)) := do
  gather path [] (← s.registry.applicableTo path)

/-- The findings on a path. -/
def Server.verifyFile (s : Server) (path : Path) : Action (List Finding) := s.checker.report path

/-- Serves the tools: says so on the stream for errors, and hands over. -/
def serve [Markup.EmojiTable] (r : Registry) (transport : String) : Action Unit := do
  let _ ← Action.ofExcept (Server.create r)
  Action.print (.errorMarkup (Console.inStyle "green"
    ("Starting MCP server (transport: " ++ Markup.escapeString transport ++ ")")))
  Action.emit (.served serverName transport)

end OwnerBuild.Tools
