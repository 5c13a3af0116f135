/-
# OwnerBuild.Path -- paths as anchors and parts

A path is read once, from its text, into an anchor (relative, `/`, or the `//`
that is kept when exactly two slashes lead) and a list of parts. A part is a
component that says something: it is not empty, not `.`, and holds no slash, and
the type `Part` carries that. `..` is a part; nothing here removes it, because
whether it can be removed depends on links and only a file tree knows those.

Equality, order, suffix and text are all functions of anchor and parts, so two
spellings of one path are one value.
-/

import OwnerBuild.Text.Lines

namespace OwnerBuild

/-! ## Parts -/

/-- A component that a path keeps. -/
def IsPart (s : String) : Prop := s ≠ "" ∧ s ≠ "." ∧ '/' ∉ s.toList

instance (s : String) : Decidable (IsPart s) := by unfold IsPart; infer_instance

/-- A component of a path. -/
abbrev Part := { s : String // IsPart s }

/-- The part that names the folder above. -/
def Part.up : Part := ⟨"..", by decide⟩

/-- The stretches between the slashes of a text, empty ones included. -/
def pieces : List Char → List (List Char)
  | [] => [[]]
  | c :: rest => if c == '/' then [] :: pieces rest else Text.extendFirst c (pieces rest)

/-- The part that a stretch between slashes is, if it says something. -/
def Part.ofPiece? (piece : List Char) : Option Part :=
  if h : IsPart (String.ofList piece) then some ⟨String.ofList piece, h⟩ else none

/-- The components that a text keeps. -/
def partsOf (s : List Char) : List Part := (pieces s).filterMap Part.ofPiece?

/-! ## Paths -/

/-- Where a path starts: at the working directory, at the root, or at the root
written with exactly two slashes. -/
inductive Anchor where
  | relative
  | root
  | doubleRoot
  deriving DecidableEq, Repr

/-- The text of an anchor. -/
def Anchor.text : Anchor → String
  | .relative => ""
  | .root => "/"
  | .doubleRoot => "//"

/-- The anchor that the leading slashes of a text stand for. -/
def Anchor.ofText (s : List Char) : Anchor :=
  match (s.takeWhile (· == '/')).length with
  | 0 => .relative
  | 2 => .doubleRoot
  | _ => .root

/-- A path: an anchor and the components below it, the outermost first. -/
structure Path where
  anchor : Anchor
  parts : List Part
  deriving DecidableEq

namespace Path

/-- The path that a text spells. -/
def ofText (s : String) : Path := ⟨.ofText s.toList, partsOf s.toList⟩

/-- The components with slashes between them. -/
def joined (parts : List Part) : String := String.intercalate "/" (parts.map (·.val))

/-- The text of a path: `.` if there is nothing to say. -/
def text (p : Path) : String :=
  if p.anchor = .relative ∧ p.parts = [] then "." else p.anchor.text ++ joined p.parts

/-- A path seen from another one: an anchored path stands for itself. -/
def join (base p : Path) : Path :=
  if p.anchor = .relative then ⟨base.anchor, base.parts ++ p.parts⟩ else p

/-- The path that stretches between slashes spell. -/
def ofPieces (ps : List (List Char)) : Path := ofText (String.ofList (Text.joinWith ['/'] ps))

/-- A path with a further component. -/
def child (p : Path) (name : Part) : Path := ⟨p.anchor, p.parts ++ [name]⟩

/-- A path with its last component taken away. Above the start of a relative path
are the folders around the working directory; above the root there is nothing. -/
def above (p : Path) : Path :=
  match p.parts.getLast? with
  | none => if p.anchor = .relative then p.child .up else p
  | some name => if name = Part.up then p.child .up else ⟨p.anchor, p.parts.dropLast⟩

/-- The last component, empty if there is none. -/
def name (p : Path) : String := ((p.parts.getLast?).map (·.val)).getD ""

/-- The suffix of a name: what starts at its last dot, unless that dot is the
first or the last character. -/
def suffixOf (name : List Char) : List Char :=
  let tail := name.reverse.takeWhile (· != '.')
  let front := name.reverse.dropWhile (· != '.')
  if tail.isEmpty || front.length ≤ 1 then [] else '.' :: tail.reverse

/-- The suffix of a path's name. -/
def suffix (p : Path) : String := String.ofList (suffixOf p.name.toList)

/-- What paths are ordered by: the components, an anchor being the first one. -/
def key (p : Path) : List String :=
  (if p.anchor = .relative then [] else [p.anchor.text]) ++ p.parts.map (·.val)

/-- The order of paths: component by component. -/
def le (p q : Path) : Bool := !decide (q.key < p.key)

/-- The distinct paths of a list, in order. -/
def sortedSet (ps : List Path) : List Path := ps.eraseDups.mergeSort le

/-- The path of `p` below `root`: what follows the components of `root` in it.
There is none if the anchors differ or the components of `root` do not lead. -/
def below? (root p : Path) : Option (List Part) :=
  if root.anchor = p.anchor ∧ root.parts <+: p.parts then some (p.parts.drop root.parts.length)
  else none

instance : Inhabited Path := ⟨⟨.relative, []⟩⟩

@[simp] theorem join_relative (base : Path) (parts : List Part) :
    base.join ⟨.relative, parts⟩ = ⟨base.anchor, base.parts ++ parts⟩ := rfl

end Path

end OwnerBuild
