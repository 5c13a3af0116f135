/-
# OwnerBuild.FileTree.Resolve -- the path that is left when links are followed

Resolving a path turns it into an absolute one without `..`, whether or not
anything is there. It goes through the components from left to right: a name that
is a link is replaced by what its target resolves to, `..` steps out of what has
been reached so far, and any other name is added to it, existing or not.

What has been reached is spelled from where the path starts, the root or the
working directory, and a link is known by its spelling. A link that has been
resolved once is not resolved again. One that is met while its own target is
still being resolved cannot be replaced: from there on what is left of each path
is joined on as it was written, so that a rest which begins with a slash starts
over at the root, and in the end `..` takes away the name before it. The path so
spelled is the answer unless the system itself finds too many links on the way to
it, which is the one loop that is reported.

The recursion is on the components, and below that on the number of links within
links that are followed before resolving is given up. How many that are depends on
how much room is left for the recursion, so it is a part of the view
(`View.linkDepth`). A chain of links can be too long for it, and so can a link that
leads back to itself by a spelling that is longer each time, as long as it is not
longer than a path may be.
-/

import OwnerBuild.FileTree.Status

namespace OwnerBuild

/-- Why a path has no place. -/
inductive LookupError where
  | embeddedNul
  | linkLoop
  | linksTooDeep
  | refused (fault : Fault)
  deriving DecidableEq, Repr

/-- Whether a name holds the character that no system call takes. -/
def hasNul (name : Part) : Bool := name.val.toList.contains '\x00'

/-- Whether a name in a path holds the character that no system call takes. -/
def Path.anyNul (p : Path) : Bool := p.parts.any hasNul

/-! ## Following names and links -/

/-- The links met so far, by their spelling: what each was resolved to, or nothing
while it is being resolved. -/
abbrev LinksMet := List (Path × Option Path)

/-- How far names and links lead. -/
inductive Trail where
  | settled (reached : Path) (met : LinksMet)
  | looped (spelled : Path)
  | stuck (e : LookupError)

namespace Trail

/-- Follows the stretches between the slashes of a path, with `node?` for what
stands at a spelled path and `enter` to resolve the target of a link. -/
def followWith (node? : Path → Option Node) (enter : LinksMet → Path → String → Trail) :
    LinksMet → Path → List (List Char) → Trail
  | met, here, [] => .settled here met
  | met, here, piece :: rest =>
    match Part.ofPiece? piece with
    | none => followWith node? enter met here rest
    | some name =>
      let next := here.child name
      if name = Part.up then followWith node? enter met here.above rest
      else if hasNul name then .stuck .embeddedNul
      else match node? next with
        | some (.link target) =>
          match met.lookup next with
          | some (some there) => followWith node? enter met there rest
          | some none => .looped (next.join (.ofPieces rest))
          | none =>
            match enter ((next, none) :: met) here target with
            | .settled there met => followWith node? enter ((next, some there) :: met) there rest
            | .looped spelled => .looped (spelled.join (.ofPieces rest))
            | .stuck e => .stuck e
        | _ => followWith node? enter met next rest

/-- Follows a text from a spelled path through less than `depth` links within links. -/
def follow (node? : Path → Option Node) : (depth : Nat) → LinksMet → Path → String → Trail
  | 0, _, _, _ => .stuck .linksTooDeep
  | depth + 1, met, here, text =>
    followWith node? (follow node? depth) met
      (if (Path.ofText text).anchor = .relative then here else ⟨.root, []⟩) (pieces text.toList)

/-- The path that a trail leads to, resolved or spelled. -/
def reached : Trail → Except LookupError Path
  | .settled path _ => .ok path
  | .looped path => .ok path
  | .stuck e => .error e

end Trail

/-- What stands at a path that is spelled from a folder; nothing is found at the end
of one that is too long. -/
def FileTree.spelledNode? (t : FileTree) (here : Place) (p : Path) : Option Node :=
  if p.text.utf8ByteSize ≥ FileTree.longestPath then none else t.find? (p.placeFrom here)

/-! ## Views -/

/-- A file tree seen from a working directory. Of that directory the innermost
folders may be gone: no name leads anywhere from one that is, but `..` still leads
out of it. Paths are resolved through `linkDepth` links within links and no more. -/
structure View where
  files : FileTree
  directory : Place
  lost : Nat := 0
  linkDepth : Nat := 984
  deriving Inhabited

namespace View

/-- Follows leading `..` out of the folders that are gone: how many of them are
left, the folder that is reached, and the names still ahead. -/
def climbOut : (lost : Nat) → Place → List Part → Nat × Place × List Part
  | 0, here, names => (0, here, names)
  | lost + 1, here, [] => (lost + 1, here, [])
  | lost + 1, here, name :: rest =>
    if name = Part.up then climbOut lost here.tail rest else (lost + 1, here, name :: rest)

/-- What stands at a spelled path. -/
def node? (v : View) (p : Path) : Option Node :=
  match climbOut (if p.anchor = .relative then v.lost else 0) v.directory p.parts with
  | (0, here, names) => v.files.spelledNode? here ⟨p.anchor, names⟩
  | _ => none

/-- How far a path leads. -/
def trail (v : View) (p : Path) : Trail :=
  Trail.follow v.node? (v.linkDepth + 1) [] ⟨.relative, []⟩ p.text

/-- What the system says to a resolved path, of which only two refusals count. -/
def confirm (v : View) (p : Path) : Except LookupError Path :=
  if p.anyNul then .error .embeddedNul
  else match v.files.status p.place with
    | .error .tooManyLinks => .error .linkLoop
    | _ => .ok p

/-- The absolute path that a path resolves to. -/
def resolve (v : View) (p : Path) : Except LookupError Path :=
  match (v.trail p).reached with
  | .error e => .error e
  | .ok spelled =>
    if spelled.anchor = .relative ∧ v.lost > 0 then .error (.refused .missing)
    else v.confirm (spelled.absolute v.directory)

/-- Makes the folder that a text leads to the working directory. -/
def enter (v : View) (text : String) : Except LookupError View :=
  let p := Path.ofText text
  if p.anyNul then .error .embeddedNul
  else if text = "" then .error (.refused .missing)
  else match climbOut (if p.anchor = .relative then v.lost else 0) v.directory p.parts with
    | (0, here, names) =>
      match v.files.locateFrom here ⟨p.anchor, names⟩ with
      | .error e => .error (.refused e)
      | .ok there =>
        match v.files.find? there with
        | some (.folder _) => .ok { v with directory := there, lost := 0 }
        | some _ => .error (.refused .notFolder)
        | none => .error (.refused .missing)
    | (lost, here, []) => .ok { v with directory := here, lost }
    | _ => .error (.refused .missing)

end View

end OwnerBuild
