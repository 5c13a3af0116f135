/-
# OwnerBuild.FileTree.Change -- changing files by path

Writing, linking, making folders and removing, at paths as a program gives them.
A path is resolved from a folder first, so that what is written through a link
lands where the link leads; the last name of a path that is linked or removed is
not followed, as the name itself is what changes.
-/

import OwnerBuild.FileTree.Resolve

namespace OwnerBuild

namespace FileTree

/-- The place that a path names, in so far as it names one. -/
def placeOf (t : FileTree) (here : Place) (p : Path) : Option Place :=
  (View.trail { files := t, directory := here } p).reached.toOption.map (·.placeFrom here)

/-- The place of a path whose last name is not followed. -/
def placeOfName (t : FileTree) (here : Place) (p : Path) : Option Place :=
  match p.parts.getLast? with
  | none => none
  | some name =>
    if name = Part.up then t.placeOf here p
    else (t.placeOf here ⟨p.anchor, p.parts.dropLast⟩).map (name :: ·)

/-- Writes a file. -/
def write (t : FileTree) (here : Place) (p : Path) (content : String) (executable : Bool) :
    FileTree :=
  match t.placeOf here p with
  | some there => t.insert there (.file content executable)
  | none => t

/-- Makes a folder and those around it. -/
def makeFolderAt (t : FileTree) (here : Place) (p : Path) : FileTree :=
  match t.placeOf here p with
  | some there => t.makeFolder there
  | none => t

/-- Makes a link. -/
def makeLink (t : FileTree) (here : Place) (p : Path) (target : String) : FileTree :=
  match t.placeOfName here p with
  | some there => t.insert there (.link target)
  | none => t

/-- Removes what a path names, with everything below it. -/
def remove (t : FileTree) (here : Place) (p : Path) : FileTree :=
  match t.placeOfName here p with
  | some there => t.erase there
  | none => t

end FileTree

/-- How many of the innermost folders of a place are not there. -/
def FileTree.countGone (t : FileTree) : Place → Nat
  | [] => 0
  | name :: outer =>
    match t.find? (name :: outer) with
    | some (.folder _) => 0
    | _ => t.countGone outer + 1

/-- The same view of another file tree. What is gone of the working directory stays
gone, also when there is a folder of that name again. -/
def View.withFiles (v : View) (files : FileTree) : View :=
  { v with files, lost := max v.lost (files.countGone v.directory) }

end OwnerBuild
