/-
# OwnerBuild.FileTree.Status -- asking what stands at a place

The question that a system call asks: follow the names of a place one by one,
through every link, and say what is there. The walk goes only through folders,
refuses names and paths that are too long, and follows no more than forty links.

Of the four refusals, `holdsFolder` and `holdsFile` turn three into a plain no;
a name that is too long is an answer to no question and stays a refusal. There is
no refusal for want of a permission, since a file tree has none.

The recursion is on the names still ahead, and below that on the number of links
that may still be followed.
-/

import OwnerBuild.FileTree.Basic

namespace OwnerBuild

/-- Why a system call refuses a path. -/
inductive Fault where
  | missing
  | notFolder
  | tooLong
  | tooManyLinks
  deriving DecidableEq, Repr

/-- The number by which the system names a refusal. -/
def Fault.number : Fault → Nat
  | .missing => 2
  | .notFolder => 20
  | .tooLong => 36
  | .tooManyLinks => 40

namespace FileTree

/-! ## The walk -/

/-- One step of a walk: into a name, or a check that a folder has been reached. -/
inductive Stride where
  | into (name : Part)
  | inFolder

/-- The longest name, in bytes. -/
def longestName : Nat := 255

/-- The length in bytes from which on a path is refused. -/
def longestPath : Nat := 4096

/-- The links that one walk may follow. -/
def linkBudget : Nat := 40

/-- The strides that a path asks for, such as a link's target. One that ends in a
slash or a dot has to lead to a folder. -/
def stridesOf (target : String) : List Stride :=
  (partsOf target.toList).map .into ++
    (match target.toList.reverse with
      | '/' :: _ => [.inFolder]
      | ['.'] => [.inFolder]
      | '.' :: '/' :: _ => [.inFolder]
      | _ => [])

/-- Where a path starts from in the folder `here`: a link's target, or one that is
given as it was written. -/
def linkBase (here : Place) (target : String) : Place :=
  if Anchor.ofText target.toList = .relative then here else []

/-- Walks from a folder, with `enter` to go on from where a link leads. -/
def walkWith (t : FileTree) (enter : Place → List Stride → Except Fault Place) :
    Place → List Stride → Except Fault Place
  | here, [] => .ok here
  | here, stride :: rest =>
    match t.find? here with
    | some (.folder _) =>
      match stride with
      | .inFolder => t.walkWith enter here rest
      | .into name =>
        if name = Part.up then t.walkWith enter here.tail rest
        else if name.val.utf8ByteSize > longestName then .error .tooLong
        else match t.find? (name :: here) with
          | none => .error .missing
          | some (.link target) => enter (linkBase here target) (stridesOf target ++ rest)
          | some _ => t.walkWith enter (name :: here) rest
    | _ => .error .notFolder

/-- Walks from a folder, following at most `budget` links. -/
def walk (t : FileTree) : (budget : Nat) → Place → List Stride → Except Fault Place
  | 0 => t.walkWith fun _ _ => .error .tooManyLinks
  | budget + 1 => t.walkWith (t.walk budget)

/-! ## What stands at a place -/

/-- The place that a path leads to from a folder. -/
def locateFrom (t : FileTree) (here : Place) (p : Path) : Except Fault Place :=
  if p.text.utf8ByteSize ≥ longestPath then .error .tooLong
  else t.walk linkBudget (p.startFrom here) (p.parts.map .into)

/-- The place that a path leads to from a folder, the path being as it was written:
one that ends in a slash or a dot has to lead to a folder. -/
def locateText (t : FileTree) (here : Place) (text : String) : Except Fault Place :=
  if text.utf8ByteSize ≥ longestPath then .error .tooLong
  else t.walk linkBudget (linkBase here text) (stridesOf text)

/-- The node that a place leads to. -/
def status (t : FileTree) (p : Place) : Except Fault Node :=
  (t.locateFrom [] p.path).bind fun there =>
    match t.find? there with
    | some n => .ok n
    | none => .error .missing

/-- A refusal that means no, or one that is passed on. -/
def plainNo (e : Fault) : Except Fault Bool :=
  if e = .tooLong then .error e else .ok false

/-- Whether a place leads to a folder. -/
def holdsFolder (t : FileTree) (p : Place) : Except Fault Bool :=
  match t.status p with
  | .ok (.folder _) => .ok true
  | .ok _ => .ok false
  | .error e => plainNo e

/-- Whether a place leads to a file. -/
def holdsFile (t : FileTree) (p : Place) : Except Fault Bool :=
  match t.status p with
  | .ok (.file ..) => .ok true
  | .ok _ => .ok false
  | .error e => plainNo e

end FileTree

end OwnerBuild
