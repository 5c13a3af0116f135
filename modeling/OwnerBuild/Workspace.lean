/-
# OwnerBuild.Workspace -- the workspace around a file

A workspace is a folder that holds a marker file. The workspace of a path is the
innermost one around what the path resolves to: if a folder is there the search
starts in it, otherwise in the folder around. A file is named inside its workspace
by the components that follow those of the root.
-/

import OwnerBuild.FileTree.Resolve

namespace OwnerBuild

/-- A folder that builds are run in. -/
structure Workspace where
  root : Path
  deriving DecidableEq

namespace Workspace

/-- The names of the files that mark a workspace, in the order they are looked for. -/
def markers : List Part := [⟨"WORKSPACE", by decide⟩, ⟨"WORKSPACE.bazel", by decide⟩]

/-- Whether one of some names is a file in a folder. -/
def holdsAny (t : FileTree) (folder : Place) : List Part → Except Fault Bool
  | [] => .ok false
  | marker :: rest =>
    match t.holdsFile (marker :: folder) with
    | .ok true => .ok true
    | .ok false => holdsAny t folder rest
    | .error e => .error e

/-- Whether a folder is marked. -/
def isMarked (t : FileTree) (folder : Place) : Except Fault Bool := holdsAny t folder markers

/-- The first marked folder of a list. -/
def firstMarked (t : FileTree) : List Place → Except Fault (Option Place)
  | [] => .ok none
  | folder :: rest =>
    match isMarked t folder with
    | .ok true => .ok (some folder)
    | .ok false => firstMarked t rest
    | .error e => .error e

/-- The folder that the search for a workspace starts in. -/
def startingFolder (t : FileTree) (place : Place) : Except Fault Place :=
  (t.holdsFolder place).map fun isFolder => if isFolder then place else place.tail

/-- The innermost marked folder around a place. -/
def placeAround (t : FileTree) (place : Place) : Except Fault (Option Place) :=
  (startingFolder t place).bind fun start => firstMarked t start.enclosing

end Workspace

namespace View

/-- The workspace around what a path resolves to. -/
def workspace? (v : View) (p : Path) : Except LookupError (Option Workspace) :=
  (v.resolve p).bind fun resolved =>
    match Workspace.placeAround v.files resolved.place with
    | .ok found => .ok (found.map fun folder => ⟨⟨resolved.anchor, folder.reverse⟩⟩)
    | .error e => .error (.refused e)

end View

/-- Why a path has no name inside a workspace. -/
inductive RelativeError where
  | lookup (e : LookupError)
  | outside
  deriving DecidableEq, Repr

/-- The name of a path inside a workspace, with slashes between the components. -/
def View.relative (v : View) (w : Workspace) (p : Path) : Except RelativeError String :=
  match v.resolve p with
  | .error e => .error (.lookup e)
  | .ok resolved =>
    match w.root.below? resolved with
    | none => .error .outside
    | some parts => .ok (Path.text ⟨.relative, parts⟩)

end OwnerBuild
