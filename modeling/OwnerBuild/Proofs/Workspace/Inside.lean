/-
# OwnerBuild.Proofs.Workspace.Inside -- a found workspace encloses what was asked for

A search for a workspace starts where a path resolves to, or one folder out, and
goes outward from there. What it finds is therefore a tail of the resolved place,
with the anchor of the resolved path. As both lookups of a check resolve the path
in the same view, naming the path inside the workspace that was found for it cannot
fail: `relative_of_workspace?`. Whatever is wrong with a path is reported by the
search, before there is a workspace to be outside of.
-/

import OwnerBuild.Workspace

namespace OwnerBuild

/-! ## Folders around a place -/

/-- The folders around a place are its tails. -/
theorem Place.mem_enclosing {folder place : Place} :
    folder ∈ place.enclosing ↔ folder <:+ place := by
  induction place with
  | nil => simp [Place.enclosing]
  | cons name outer ih =>
    rw [Place.enclosing, List.mem_cons, ih, List.suffix_cons_iff]

namespace Workspace

/-- The search for a marked folder gives one of the folders that it goes through. -/
theorem mem_of_firstMarked {t : FileTree} {folders : List Place} {folder : Place}
    (h : firstMarked t folders = .ok (some folder)) : folder ∈ folders := by
  induction folders with
  | nil => simp [firstMarked] at h
  | cons first rest ih =>
    rw [firstMarked] at h
    split at h
    · obtain rfl : first = folder := by simpa using h
      exact List.mem_cons_self
    · exact List.mem_cons_of_mem _ (ih h)
    · cases h

/-- The search starts in the place itself or in the folder around it. -/
theorem startingFolder_suffix {t : FileTree} {place start : Place}
    (h : startingFolder t place = .ok start) : start <:+ place := by
  unfold startingFolder at h
  cases held : t.holdsFolder place with
  | error e => simp [held, Except.map] at h
  | ok isFolder =>
    obtain rfl : (if isFolder then place else place.tail) = start := by
      simpa [held, Except.map] using h
    split
    · exact List.suffix_refl _
    · exact List.tail_suffix _

end Workspace

namespace View

/-- What a search for a workspace rests on: a resolved path, a place to start from, and the first
marked folder from there outwards. -/
theorem workspace?_eq_ok {v : View} {p : Path} {found : Option Workspace}
    (h : v.workspace? p = .ok found) :
    ∃ resolved start folder?, v.resolve p = .ok resolved ∧
      Workspace.startingFolder v.files resolved.place = .ok start ∧
      Workspace.firstMarked v.files start.enclosing = .ok folder? ∧
      found = folder?.map fun folder => ⟨⟨resolved.anchor, folder.reverse⟩⟩ := by
  unfold workspace? at h
  cases resolution : v.resolve p with
  | error e => simp [resolution, Except.bind] at h
  | ok resolved =>
    simp only [resolution, Except.bind] at h
    split at h
    · next folder? around =>
      obtain rfl := Except.ok.inj h
      unfold Workspace.placeAround at around
      cases started : Workspace.startingFolder v.files resolved.place with
      | error e => simp [started, Except.bind] at around
      | ok start =>
        rw [started] at around
        exact ⟨resolved, start, folder?, rfl, started, around, rfl⟩
    · cases h

/-- **A workspace that was found encloses the resolved path**: its folder is around the place, and
its root is spelled like the path. -/
theorem workspace?_eq_some {v : View} {path : Path} {w : Workspace}
    (h : v.workspace? path = .ok (some w)) :
    ∃ resolved folder, v.resolve path = .ok resolved ∧ folder <:+ resolved.place ∧
      w.root = ⟨resolved.anchor, folder.reverse⟩ := by
  obtain ⟨resolved, start, folder?, resolution, started, marked, found⟩ := workspace?_eq_ok h
  obtain ⟨folder, rfl, rfl⟩ := Option.map_eq_some_iff.mp found.symm
  have around : folder <:+ start := Place.mem_enclosing.mp (Workspace.mem_of_firstMarked marked)
  exact ⟨resolved, folder, resolution, around.trans (Workspace.startingFolder_suffix started), rfl⟩

/-- **A path has a name inside the workspace that was found for it.** -/
theorem relative_of_workspace? {v : View} {path : Path} {w : Workspace}
    (h : v.workspace? path = .ok (some w)) : ∃ name, v.relative w path = .ok name := by
  obtain ⟨resolved, folder, resolution, encloses, root⟩ := workspace?_eq_some h
  have leads : folder.reverse <+: resolved.parts := by
    have := List.reverse_prefix.mpr encloses
    rwa [Path.place, List.reverse_reverse] at this
  have below : w.root.below? resolved = some (resolved.parts.drop folder.reverse.length) := by
    rw [root, Path.below?, if_pos ⟨rfl, leads⟩]
  refine ⟨Path.text ⟨.relative, resolved.parts.drop folder.reverse.length⟩, ?_⟩
  simp only [relative, resolution, below]

end View

end OwnerBuild
