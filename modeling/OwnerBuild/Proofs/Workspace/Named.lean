/-
# OwnerBuild.Proofs.Workspace.Named -- the name of a file inside its workspace

A build tool is asked about a file by the components that follow those of the root. `IsName` says
what makes a text such a name: read as a path from the root it leads to the file and to nothing
else, and none of its stretches is empty or steps out again. So different files of a workspace
have different names (`IsName.unique`).

Whether there is a name is decided by components, not by letters: the components of the root,
the anchor being the first one, have to lead those of the resolved file (`relative_eq_outside_iff`).
For a root that was found for the file they do. The name is computed from a resolution of its own;
that the two resolutions agree is why `namesInside` needs nothing of the path but that it can be
searched for a workspace.

A root with `..` in it leads to no file, since no resolved path has `..` in it; nothing is said
here of relative roots, below which nothing is ever found.
-/

import Mathlib.Control.Monad.Basic
import OwnerBuild.Proofs.FileTree.Resolved
import OwnerBuild.Proofs.Path.Order
import OwnerBuild.Proofs.Workspace.Inside

namespace OwnerBuild

namespace Path

variable {root p q : Path} {parts : List Part} {name : String}

/-! ## Below a root -/

/-- What is below a root leads from the root to the path. -/
theorem below?_eq_some_iff : root.below? p = some parts ↔ root.join ⟨.relative, parts⟩ = p := by
  obtain ⟨anchor, names⟩ := p
  rw [join_relative, below?]
  constructor
  · intro found
    split at found
    · next leads =>
      obtain ⟨rfl, rest, rfl⟩ := leads
      rw [List.drop_left] at found
      rw [Option.some.inj found]
    · cases found
  · intro same
    obtain ⟨rfl, rfl⟩ := Path.mk.inj same
    rw [if_pos ⟨rfl, List.prefix_append _ _⟩, List.drop_left]

/-- **Below a root is what the components of the root lead**, the anchor among them. -/
theorem below?_eq_none_iff (anchored : root.anchor ≠ .relative) (anchored' : p.anchor ≠ .relative) :
    root.below? p = none ↔ ¬ root.key <+: p.key := by
  obtain ⟨anchor, names⟩ := root
  obtain ⟨anchor', names'⟩ := p
  have anchors : anchor.text = anchor'.text ↔ anchor = anchor' :=
    ⟨anchor_text_injective, congrArg Anchor.text⟩
  -- components and parts are the same texts, so a prefix of one is a prefix of the other
  have injective : Function.Injective fun name : Part => name.val := fun _ _ => Subtype.ext
  rw [key_anchored anchored, key_anchored anchored', List.cons_prefix_cons, anchors,
    List.prefix_map_iff_of_injective injective, below?]
  simp

/-! ## Names -/

/-- The stretches between the slashes of a relative path: its components, or a dot. -/
theorem mem_pieces_text {piece : List Char} (h : piece ∈ pieces (text ⟨.relative, parts⟩).toList) :
    piece = ['.'] ∨ ∃ name ∈ parts, name.val.toList = piece := by
  by_cases none : parts = []
  · subst none
    exact .inl (List.mem_singleton.mp h)
  · have spelled : text ⟨.relative, parts⟩ = joined parts := by
      rw [text, if_neg (fun nothing => none nothing.2)]
      exact String.empty_append
    rw [spelled, pieces_joined none] at h
    exact .inr (List.mem_map.mp h)

/-- That a text names a path inside a root. -/
structure IsName (root p : Path) (name : String) : Prop where
  /-- It is a relative path, and from the root it leads to the path. -/
  leads : (ofText name).anchor = .relative ∧ root.join (ofText name) = p
  /-- None of its stretches is empty or `..`. -/
  plain : ∀ piece ∈ pieces name.toList, piece ≠ [] ∧ piece ≠ Part.up.val.toList
  /-- The root itself is named by a dot, and nothing else is. -/
  dot_iff : name = "." ↔ p = root

/-- **A name belongs to one path.** -/
theorem IsName.unique (h : IsName root p name) (h' : IsName root q name) : p = q :=
  h.leads.2.symm.trans h'.leads.2

/-- What is below a root without `..` is named by its text. -/
theorem isName_text (below : root.below? p = some parts) (plain : Part.up ∉ p.parts) :
    IsName root p (text ⟨.relative, parts⟩) := by
  have leads := below?_eq_some_iff.mp below
  refine ⟨?leads, ?plain, ?dot_iff⟩
  case leads =>
    rw [ofText_text]
    exact ⟨rfl, leads⟩
  case plain =>
    intro piece member
    rcases mem_pieces_text member with rfl | ⟨name, inside, rfl⟩
    · decide
    · refine ⟨name.toList_ne_nil, fun isUp => plain ?_⟩
      obtain rfl : name = Part.up := Subtype.ext (String.toList_inj.mp isUp)
      rw [← leads]
      exact List.mem_append_right _ inside
  case dot_iff =>
    have dot : text ⟨.relative, parts⟩ = "." ↔ parts = [] := by
      constructor
      · intro isDot
        exact (Path.mk.inj (text_injective (q := ⟨.relative, []⟩) isDot)).2
      · rintro rfl
        rfl
    rw [dot, ← leads, join_relative]
    constructor
    · rintro rfl
      rw [List.append_nil]
    · intro same
      exact List.append_right_eq_self.mp (congrArg Path.parts same)

end Path

namespace View

variable {v : View} {p q resolved : Path} {w : Workspace}

/-! ## Names of resolved paths -/

theorem anchored_of_resolve (h : v.resolve p = .ok resolved) : resolved.anchor ≠ .relative := by
  obtain ⟨spelled, _, _, rfl, _⟩ := resolve_eq_ok h
  exact Path.absolute_anchor_ne_relative _ _

/-- Resolving leaves no `..`. -/
theorem up_not_mem_parts_of_resolve (standing : v.Standing) (h : v.resolve p = .ok resolved) :
    Part.up ∉ resolved.parts := by
  obtain ⟨spelled, _, _, rfl, _⟩ := resolve_eq_ok h
  intro member
  apply Path.up_not_mem_placeFrom standing.plain spelled
  exact List.mem_reverse.mp member

/-- The name of a resolved file is the text of what is below the root. -/
theorem relative_eq_of_resolve (h : v.resolve p = .ok resolved) (w : Workspace) :
    v.relative w p = (w.root.below? resolved).elim (.error .outside) fun parts =>
      .ok (Path.text ⟨.relative, parts⟩) := by
  rw [relative, h]
  dsimp only
  cases w.root.below? resolved <;> rfl

/-- **A file is outside of a root exactly if** the components of the root do not lead those of what
it resolves to. -/
theorem relative_eq_outside_iff (anchored : w.root.anchor ≠ .relative)
    (h : v.resolve p = .ok resolved) :
    v.relative w p = .error .outside ↔ ¬ w.root.key <+: resolved.key := by
  rw [← Path.below?_eq_none_iff anchored (anchored_of_resolve h), relative_eq_of_resolve h]
  cases w.root.below? resolved <;> simp

/-- What comes out as the name of a file is one. -/
theorem isName_of_relative (standing : v.Standing) (h : v.resolve p = .ok resolved) {name : String}
    (named : v.relative w p = .ok name) : Path.IsName w.root resolved name := by
  rw [relative_eq_of_resolve h] at named
  cases below : w.root.below? resolved with
  | none =>
    rw [below] at named
    cases named
  | some parts =>
    rw [below] at named
    obtain rfl := Except.ok.inj named
    exact Path.isName_text below (up_not_mem_parts_of_resolve standing h)

/-- A file that is not outside has a name. -/
theorem exists_name_of_leads (standing : v.Standing) (anchored : w.root.anchor ≠ .relative)
    (h : v.resolve p = .ok resolved) (leads : w.root.key <+: resolved.key) :
    ∃ name, v.relative w p = .ok name ∧ Path.IsName w.root resolved name := by
  cases below : w.root.below? resolved with
  | none =>
    have outside := (Path.below?_eq_none_iff anchored (anchored_of_resolve h)).mp below
    exact absurd leads outside
  | some parts =>
    have named := relative_eq_of_resolve h w
    rw [below] at named
    exact ⟨_, named, isName_of_relative standing h named⟩

/-! ## All names -/

/-- How files are named inside workspaces. -/
structure NamesInside (v : View) : Prop where
  /-- Inside the workspace that was found for it a file has a name, and no file of the workspace
  that resolves differently has the same one. -/
  located : ∀ p w, v.workspace? p = .ok (some w) → ∃ resolved name, v.resolve p = .ok resolved ∧
    v.relative w p = .ok name ∧ Path.IsName w.root resolved name ∧
    ∀ q, v.workspace? q = .ok (some w) → v.resolve q ≠ v.resolve p → v.relative w q ≠ .ok name
  /-- Of any other absolute root a file is outside exactly if the root's components do not lead
  those of what the file resolves to. -/
  outside_iff : ∀ p w resolved, w.root.anchor ≠ .relative → v.resolve p = .ok resolved →
    (v.relative w p = .error .outside ↔ ¬ w.root.key <+: resolved.key)
  /-- Otherwise it has a name inside. -/
  inside : ∀ p w resolved, w.root.anchor ≠ .relative → v.resolve p = .ok resolved →
    w.root.key <+: resolved.key →
      ∃ name, v.relative w p = .ok name ∧ Path.IsName w.root resolved name

/-- **A file is named inside its workspace, and only there.** -/
theorem namesInside (standing : v.Standing) : NamesInside v where
  located := by
    intro p w located
    obtain ⟨resolved, folder, resolution, _, _⟩ := workspace?_eq_some located
    obtain ⟨name, named⟩ := relative_of_workspace? located
    have isName := isName_of_relative standing resolution named
    refine ⟨resolved, name, resolution, named, isName, ?_⟩
    intro q located' different same
    obtain ⟨resolved', _, resolution', _, _⟩ := workspace?_eq_some located'
    rw [resolution, resolution'] at different
    -- one name inside one root: the two files would be one
    have isName' := isName_of_relative standing resolution' same
    exact different (congrArg Except.ok (isName'.unique isName))
  outside_iff := fun _ _ _ anchored resolution => relative_eq_outside_iff anchored resolution
  inside := fun _ _ _ anchored resolution leads =>
    exists_name_of_leads standing anchored resolution leads

/-- A marked folder behind a link, next to a folder whose name begins like it. -/
def namedView : View where
  files := ⟨[("ws", .folder [("WORKSPACE", .file "" false), ("lib.rs", .file "" false)]),
    ("ws2", .folder [("lib.rs", .file "" false)]), ("link", .link "ws/missing/..")]⟩
  directory := []

/-- Through the link a file is named as in the folder itself, and what only begins like the folder
is outside. -/
theorem namesInside_link : namedView.Standing ∧
    namedView.workspace? (.ofText "/link/lib.rs") = .ok (some ⟨.ofText "/ws"⟩) ∧
    namedView.relative ⟨.ofText "/ws"⟩ (.ofText "/link/lib.rs") = .ok "lib.rs" ∧
    Path.IsName (.ofText "/ws") (.ofText "/ws/lib.rs") "lib.rs" ∧
    namedView.relative ⟨.ofText "/ws"⟩ (.ofText "/ws2/lib.rs") = .error .outside := by
  have standing : namedView.Standing := standing_root _
  have located : namedView.workspace? (.ofText "/link/lib.rs") = .ok (some ⟨.ofText "/ws"⟩) := by
    decide +kernel
  have named : namedView.relative ⟨.ofText "/ws"⟩ (.ofText "/link/lib.rs") = .ok "lib.rs" := by
    decide +kernel
  have resolution : namedView.resolve (.ofText "/link/lib.rs") = .ok (.ofText "/ws/lib.rs") := by
    decide +kernel
  have elsewhere : namedView.resolve (.ofText "/ws2/lib.rs") = .ok (.ofText "/ws2/lib.rs") := by
    decide +kernel
  have names : NamesInside namedView := namesInside standing
  obtain ⟨resolved, name, resolution', named', isName, _⟩ := names.located _ _ located
  obtain rfl := Except.ok.inj (resolution.symm.trans resolution')
  obtain rfl := Except.ok.inj (named.symm.trans named')
  refine ⟨standing, located, named, isName, ?_⟩
  apply (names.outside_iff _ ⟨.ofText "/ws"⟩ _ (by decide) elsewhere).mpr
  decide +kernel

end View

end OwnerBuild
