/-
# OwnerBuild.FileTree.Basic -- files, folders and links

A file tree is a folder of named nodes. A place is a position in it: the names
on the way from the root, innermost first, so that the enclosing folder of a
place is its tail and no place is relative. Nothing is asked of a place: it may
name a node or not. `find?` is the view through which every other question about
a tree is answered. Nodes have no owners and no permissions but whether a file may be
run: every folder can be gone through and looked into.
-/

import OwnerBuild.Path

namespace OwnerBuild

/-- What a name in a folder stands for. -/
inductive Node where
  | file (content : String) (executable : Bool)
  | link (target : String)
  | folder (entries : List (String × Node))
  deriving Inhabited

/-- A position in a file tree: the names that lead to it, innermost first. -/
abbrev Place := List Part

/-- The entries of the root folder. -/
structure FileTree where
  entries : List (String × Node)
  deriving Inhabited

/-- The node of a name in a folder; other nodes hold no names. -/
def Node.child? (n : Node) (name : String) : Option Node :=
  match n with
  | .folder entries => entries.lookup name
  | _ => none

/-- A place as an absolute path. -/
def Place.path (p : Place) : Path := ⟨.root, p.reverse⟩

namespace Path

/-- The place of an absolute path without `..`. -/
def place (p : Path) : Place := p.parts.reverse

/-- Where a path starts from in the folder `here`. -/
def startFrom (here : Place) (p : Path) : Place := if p.anchor = .relative then here else []

/-- The place that a path spells from a folder, `..` taking a name away. -/
def placeFrom (here : Place) (p : Path) : Place :=
  p.parts.foldl (fun place name => if name = Part.up then place.tail else name :: place)
    (p.startFrom here)

/-- The absolute path that a path spells from a folder. -/
def absolute (here : Place) (p : Path) : Path :=
  ⟨if p.anchor = .doubleRoot then .doubleRoot else .root, (p.placeFrom here).reverse⟩

/-- What is spelled as an absolute path has the place that is spelled. -/
@[simp] theorem place_absolute (here : Place) (p : Path) :
    (p.absolute here).place = p.placeFrom here := by
  simp [absolute, place]

theorem absolute_anchor_ne_relative (here : Place) (p : Path) :
    (p.absolute here).anchor ≠ .relative := by
  unfold absolute
  split <;> simp

end Path

@[simp] theorem place_path (p : Place) : p.path.place = p := by
  simp [Place.path, Path.place]

/-- The folders around a place, from the place itself out to the root. -/
def Place.enclosing : Place → List Place
  | [] => [[]]
  | name :: outer => (name :: outer) :: Place.enclosing outer

namespace FileTree

/-- The node at a place. -/
def find? (t : FileTree) : Place → Option Node
  | [] => some (.folder t.entries)
  | name :: outer => (t.find? outer).bind (·.child? name.val)

/-! ## Changing a tree -/

/-- Sets what a name stands for; a new name goes last. -/
def setEntry (name : String) (n : Node) : List (String × Node) → List (String × Node)
  | [] => [(name, n)]
  | e :: rest => if e.1 == name then (name, n) :: rest else e :: setEntry name n rest

/-- Changes the entries of the folder at the end of a chain of names, the
outermost first. Whatever is missing on the way, or no folder, becomes one. -/
def modifyEntries (f : List (String × Node) → List (String × Node)) :
    List String → List (String × Node) → List (String × Node)
  | [], entries => f entries
  | name :: rest, entries =>
    let inner := match entries.lookup name with
      | some (.folder inner) => inner
      | _ => []
    setEntry name (.folder (modifyEntries f rest inner)) entries

/-- Changes the entries of the folder at a place. -/
def modifyFolder (t : FileTree) (p : Place) (f : List (String × Node) → List (String × Node)) :
    FileTree :=
  ⟨modifyEntries f (p.reverse.map (·.val)) t.entries⟩

/-- Puts a node at a place; the folders on the way are made as needed. -/
def insert (t : FileTree) (p : Place) (n : Node) : FileTree :=
  match p with
  | [] => t
  | name :: outer => t.modifyFolder outer (setEntry name.val n)

/-- Makes a folder at a place unless one is there. -/
def makeFolder (t : FileTree) (p : Place) : FileTree := t.modifyFolder p id

/-- Takes away the node at a place, with everything below it. -/
def erase (t : FileTree) (p : Place) : FileTree :=
  match p with
  | [] => t
  | name :: outer =>
    match t.find? (name :: outer) with
    | none => t
    | some _ => t.modifyFolder outer (·.filter (·.1 != name.val))

@[simp] theorem find?_root (t : FileTree) : t.find? [] = some (.folder t.entries) := rfl

@[simp] theorem find?_cons (t : FileTree) (name : Part) (outer : Place) :
    t.find? (name :: outer) = (t.find? outer).bind (·.child? name.val) := rfl

end FileTree

end OwnerBuild
