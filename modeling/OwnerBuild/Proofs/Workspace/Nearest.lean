/-
# OwnerBuild.Proofs.Workspace.Nearest -- the innermost workspace, the same from within

The search for a workspace asks for the marker files in each folder from the start outwards and
stops at the first marked one, so what it finds is the innermost marked folder, and that there is
none means that no folder out to the root is marked (`innermost_of_firstMarked`).

The search from any folder between the start and what was found ends at the same folder
(`firstMarked_inner`, `placeAround_inner`): a folder that can be asked about from within can be
asked about from further out, and what is marked is a folder. To search from such a folder
its path has to resolve to itself, which it does if no link stands there. That is so behind
every path that resolves without a loop; behind a loop links can be left standing, and then the
folder that was found is not always found again (`workspace?_behind_loop`).
-/

import Mathlib.Control.Monad.Basic
import OwnerBuild.Proofs.FileTree.Resolved
import OwnerBuild.Proofs.Workspace.Inside

namespace OwnerBuild

namespace FileTree

variable {t : FileTree} {p : Place}

/-! ## Questions about a place -/

theorem holdsFile_iff {held : Bool} (h : t.holdsFile p = .ok held) :
    held = true ↔ ∃ content executable, t.status p = .ok (.file content executable) := by
  unfold holdsFile at h
  cases status : t.status p with
  | error e =>
    simp only [status, plainNo] at h
    split at h
    · cases h
    · obtain rfl := Except.ok.inj h
      simp
  | ok n =>
    simp only [status] at h
    cases n <;> obtain rfl := Except.ok.inj h <;> simp

theorem holdsFolder_iff {held : Bool} (h : t.holdsFolder p = .ok held) :
    held = true ↔ ∃ entries, t.status p = .ok (.folder entries) := by
  unfold holdsFolder at h
  cases status : t.status p with
  | error e =>
    simp only [status, plainNo] at h
    split at h
    · cases h
    · obtain rfl := Except.ok.inj h
      simp
  | ok n =>
    simp only [status] at h
    cases n <;> obtain rfl := Except.ok.inj h <;> simp

/-- Whether a folder is at a place can be asked exactly if the place is not too far. -/
theorem exists_holdsFolder_iff :
    (∃ held, t.holdsFolder p = .ok held) ↔ t.status p ≠ .error .tooLong := by
  unfold holdsFolder
  cases t.status p with
  | error e => cases e <;> simp [plainNo]
  | ok n => cases n <;> simp

end FileTree

namespace Workspace

variable {t : FileTree} {start folder inner place : Place}

/-! ## Marked folders -/

/-- That a folder holds a marker file, or a link that leads to one. -/
def Marked (t : FileTree) (folder : Place) : Prop :=
  ∃ marker ∈ markers, ∃ content executable,
    t.status (marker :: folder) = .ok (.file content executable)

theorem holdsAny_iff {names : List Part} {held : Bool} (h : holdsAny t folder names = .ok held) :
    held = true ↔ ∃ marker ∈ names, ∃ content executable,
      t.status (marker :: folder) = .ok (.file content executable) := by
  induction names with
  | nil =>
    obtain rfl := Except.ok.inj h
    simp
  | cons marker rest ih =>
    rw [holdsAny] at h
    split at h
    · next found =>
      obtain rfl := Except.ok.inj h
      have isFile := (FileTree.holdsFile_iff found).mp rfl
      exact iff_of_true rfl ⟨marker, List.mem_cons_self, isFile⟩
    · next absent =>
      have noFile := mt (FileTree.holdsFile_iff absent).mpr Bool.false_ne_true
      rw [ih h]
      simp only [List.mem_cons, exists_eq_or_imp, noFile, false_or]
    · cases h

theorem isMarked_iff {held : Bool} (h : isMarked t folder = .ok held) :
    held = true ↔ Marked t folder := holdsAny_iff h

/-- What is marked is a folder. -/
theorem Marked.isFolder (marked : Marked t folder) :
    ∃ entries, t.status folder = .ok (.folder entries) := by
  obtain ⟨marker, _, content, executable, isFile⟩ := marked
  exact FileTree.exists_folder_of_status isFile

/-! ## Innermost folders -/

/-- What the innermost marked folder around a place is, if there is one. -/
def Innermost (t : FileTree) (start : Place) : Option Place → Prop
  | none => ∀ outer, outer <:+ start → ¬ Marked t outer
  | some folder => folder <:+ start ∧ Marked t folder ∧
      ∀ outer, outer <:+ start → Marked t outer → outer <:+ folder

/-- There is only one innermost marked folder. -/
theorem Innermost.unique {found found' : Option Place} (h : Innermost t start found)
    (h' : Innermost t start found') : found = found' := by
  match found, found' with
  | none, none => rfl
  | none, some folder => exact absurd h'.2.1 (h folder h'.1)
  | some folder, none => exact absurd h.2.1 (h' folder h.1)
  | some folder, some folder' =>
    have within : folder <:+ folder' := h'.2.2 folder h.1 h.2.1
    have around : folder' <:+ folder := h.2.2 folder' h'.1 h'.2.1
    exact congrArg some (within.eq_of_length_le around.length_le)

/-- **The search finds the innermost marked folder**, if there is one. -/
theorem innermost_of_firstMarked {found : Option Place}
    (h : firstMarked t start.enclosing = .ok found) : Innermost t start found := by
  induction start with
  | nil =>
    simp only [Place.enclosing, firstMarked] at h
    split at h
    · next marked =>
      obtain rfl := Except.ok.inj h
      exact ⟨List.suffix_refl _, (isMarked_iff marked).mp rfl, fun _ within _ => within⟩
    · next unmarked =>
      obtain rfl := Except.ok.inj h
      intro outer within
      rw [List.suffix_nil.mp within]
      exact mt (isMarked_iff unmarked).mpr Bool.false_ne_true
    · cases h
  | cons name outer ih =>
    rw [Place.enclosing, firstMarked] at h
    split at h
    · next marked =>
      obtain rfl := Except.ok.inj h
      exact ⟨List.suffix_refl _, (isMarked_iff marked).mp rfl, fun _ within _ => within⟩
    · next unmarked =>
      have here : ¬ Marked t (name :: outer) := mt (isMarked_iff unmarked).mpr Bool.false_ne_true
      -- what is marked around the start is around the folder further out
      have further : ∀ other, other <:+ name :: outer → Marked t other → other <:+ outer := by
        intro other within marked
        rcases List.suffix_cons_iff.mp within with rfl | within
        · exact absurd marked here
        · exact within
      have innermost := ih h
      cases found with
      | none => exact fun other within marked => innermost other (further other within marked) marked
      | some folder =>
        obtain ⟨within, marked, deepest⟩ := innermost
        exact ⟨within.trans (List.suffix_cons name outer), marked, fun other inside isMarked =>
          deepest other (further other inside isMarked) isMarked⟩
    · cases h

/-- The search from further out finds the same folder, as long as it starts within it. -/
theorem firstMarked_inner (h : firstMarked t start.enclosing = .ok (some folder))
    (around : folder <:+ inner) (within : inner <:+ start) :
    firstMarked t inner.enclosing = .ok (some folder) := by
  induction start with
  | nil =>
    obtain rfl : inner = [] := List.suffix_nil.mp within
    exact h
  | cons name outer ih =>
    rcases List.suffix_cons_iff.mp within with rfl | within
    · exact h
    · rw [Place.enclosing, firstMarked] at h
      split at h
      · -- the folder that was found would be further in than the start
        obtain rfl : name :: outer = folder := Option.some.inj (Except.ok.inj h)
        have longer : outer.length + 1 ≤ outer.length := (around.trans within).length_le
        exact absurd longer (Nat.not_succ_le_self _)
      · exact ih h within
      · cases h

/-! ## Starts -/

/-- Where the search around a place starts: there if a folder is there, else around it. -/
theorem startingFolder_spec (h : startingFolder t place = .ok start) :
    t.status place ≠ .error .tooLong ∧
      ((∃ entries, t.status place = .ok (.folder entries)) ∧ start = place ∨
        (¬ ∃ entries, t.status place = .ok (.folder entries)) ∧ start = place.tail) := by
  unfold startingFolder at h
  cases held : t.holdsFolder place with
  | error e => simp [held, Except.map] at h
  | ok isFolder =>
    refine ⟨FileTree.exists_holdsFolder_iff.mp ⟨isFolder, held⟩, ?_⟩
    have isFolder_iff := FileTree.holdsFolder_iff held
    rw [held] at h
    obtain rfl := Except.ok.inj h
    cases isFolder with
    | true => exact .inl ⟨isFolder_iff.mp rfl, rfl⟩
    | false => exact .inr ⟨mt isFolder_iff.mpr Bool.false_ne_true, rfl⟩

/-- **The search around every folder on the way finds the same folder.** -/
theorem placeAround_inner (near : t.status start ≠ .error .tooLong)
    (h : firstMarked t start.enclosing = .ok (some folder)) (around : folder <:+ inner)
    (within : inner <:+ start) : placeAround t inner = .ok (some folder) := by
  obtain ⟨held, asked⟩ := FileTree.exists_holdsFolder_iff.mpr
    (FileTree.status_suffix_ne_tooLong within near)
  rw [placeAround, startingFolder, asked]
  show firstMarked t (Place.enclosing (if held then inner else inner.tail)) = _
  cases held with
  | true => exact firstMarked_inner h around within
  | false =>
    have noFolder := mt (FileTree.holdsFolder_iff asked).mpr Bool.false_ne_true
    have isFolder := (innermost_of_firstMarked h).2.1.isFolder
    refine firstMarked_inner h ?_ ((List.tail_suffix inner).trans within)
    cases inner with
    | nil => exact around
    | cons name outer =>
      rcases List.suffix_cons_iff.mp around with rfl | further
      · exact absurd isFolder noFolder
      · exact further

end Workspace

namespace View

variable {v : View} {p resolved : Path} {found : Option Workspace} {start : Place}

theorem workspace?_of_placeAround {folder? : Option Place} (resolution : v.resolve p = .ok resolved)
    (around : Workspace.placeAround v.files resolved.place = .ok folder?) :
    v.workspace? p = .ok (folder?.map fun folder => ⟨⟨resolved.anchor, folder.reverse⟩⟩) := by
  rw [workspace?, resolution, Except.bind, around]

/-- What is found, from a start on, when a path is searched for a workspace. -/
structure NearestWorkspace (v : View) (p resolved : Path) (start : Place)
    (found : Option Workspace) : Prop where
  /-- The path resolves to an absolute one. -/
  resolves : v.resolve p = .ok resolved ∧ resolved.anchor ≠ .relative
  /-- The search starts there if a folder is there, and else in the folder around. -/
  starts : (∃ entries, v.files.status resolved.place = .ok (.folder entries)) ∧
      start = resolved.place ∨
    (¬ ∃ entries, v.files.status resolved.place = .ok (.folder entries)) ∧
      start = resolved.place.tail
  /-- It finds the innermost marked folder. -/
  some_iff : ∀ w : Workspace, found = some w ↔ w.root.anchor = resolved.anchor ∧
    w.root.place <:+ start ∧ Workspace.Marked v.files w.root.place ∧
    ∀ outer, outer <:+ start → Workspace.Marked v.files outer → outer <:+ w.root.place
  /-- It finds nothing exactly if no folder out to the root is marked. -/
  none_iff : found = none ↔ ∀ outer, outer <:+ start → ¬ Workspace.Marked v.files outer
  /-- The same is found from everything on the way to the root, there or not, if no link stands
  at it or around it. -/
  stable : ∀ w, found = some w → resolved.anchor = .root → ∀ inner : Place,
    w.root.place <:+ inner → inner <:+ start → v.files.LinkFree inner →
      v.workspace? inner.path = .ok (some w)
  /-- So the root is found from itself, and it resolves to itself. -/
  root_stable : ∀ w, found = some w → resolved.anchor = .root → v.files.LinkFree w.root.place →
    v.resolve w.root = .ok w.root ∧ v.workspace? w.root = .ok (some w)
  /-- No link stands at the start or around it if resolving ends in no loop, nor at a path from the
  working directory that is too long to be asked about. -/
  unlinked : ∀ reached met, v.trail p = .settled reached met →
    (reached.anchor = .relative → reached.text.utf8ByteSize < FileTree.longestPath) →
      resolved.anchor = .root ∧ v.files.LinkFree start

@[simp] theorem place_reverse (anchor : Anchor) (folder : Place) :
    Path.place ⟨anchor, folder.reverse⟩ = folder := List.reverse_reverse folder

theorem workspaceAt_eq_some_iff {anchor : Anchor} {folder? : Option Place} {w : Workspace} :
    folder?.map (fun folder => ⟨⟨anchor, folder.reverse⟩⟩) = some w ↔
      w.root.anchor = anchor ∧ folder? = some w.root.place := by
  rw [Option.map_eq_some_iff]
  constructor
  · rintro ⟨folder, rfl, rfl⟩
    exact ⟨rfl, by simp⟩
  · rintro ⟨rfl, rfl⟩
    exact ⟨w.root.place, rfl, by simp [Path.place]⟩

/-- The search from a folder on the way that resolves to itself finds the same workspace. -/
theorem workspace?_inner {folder inner : Place} (resolution : v.resolve inner.path = .ok inner.path)
    (near : v.files.status start ≠ .error .tooLong)
    (marked : Workspace.firstMarked v.files start.enclosing = .ok (some folder))
    (around : folder <:+ inner) (inside : inner <:+ start) :
    v.workspace? inner.path = .ok (some ⟨folder.path⟩) := by
  have again := Workspace.placeAround_inner near marked around inside
  rw [← place_path inner] at again
  exact workspace?_of_placeAround resolution again

/-- **The nearest workspace is found, and found again from everything on the way to it.** -/
theorem nearestWorkspace (standing : v.Standing) (h : v.workspace? p = .ok found) :
    ∃ resolved start, NearestWorkspace v p resolved start found := by
  obtain ⟨resolved, start, folder?, resolution, started, marked, rfl⟩ := workspace?_eq_ok h
  obtain ⟨near, starts⟩ := Workspace.startingFolder_spec started
  have within : start <:+ resolved.place := Workspace.startingFolder_suffix started
  have nearStart : v.files.status start ≠ .error .tooLong :=
    FileTree.status_suffix_ne_tooLong within near
  have innermost : Workspace.Innermost v.files start folder? :=
    Workspace.innermost_of_firstMarked marked
  have itself : ∀ inner : Place, inner <:+ start → v.files.LinkFree inner →
      v.resolve inner.path = .ok inner.path := fun inner inside free =>
    resolve_within standing resolution (inside.trans within) free
  -- a root with one leading slash is the path of its place
  have isPath : ∀ w : Workspace, w.root.anchor = .root → w.root = w.root.place.path := by
    intro w anchored
    rw [Place.path, Path.place, List.reverse_reverse, ← anchored]
  refine ⟨resolved, start, ⟨resolution, ?absolute⟩, starts, ?some_iff, ?none_iff, ?stable,
    ?root_stable, ?unlinked⟩
  case absolute =>
    obtain ⟨spelled, _, _, rfl, _⟩ := resolve_eq_ok resolution
    exact Path.absolute_anchor_ne_relative _ _
  case some_iff =>
    intro w
    rw [workspaceAt_eq_some_iff]
    refine and_congr_right fun _ => ⟨?_, fun isInnermost => innermost.unique isInnermost⟩
    intro isFound
    rwa [isFound] at innermost
  case none_iff =>
    rw [Option.map_eq_none_iff]
    exact ⟨fun none => by rwa [none] at innermost, fun unmarked => innermost.unique unmarked⟩
  case stable =>
    intro w isFound anchored inner around inside free
    obtain ⟨anchor, rfl⟩ := workspaceAt_eq_some_iff.mp isFound
    have again := workspace?_inner (itself inner inside free) nearStart marked around inside
    rwa [← isPath w (anchor.trans anchored)] at again
  case root_stable =>
    intro w isFound anchored free
    obtain ⟨anchor, rfl⟩ := workspaceAt_eq_some_iff.mp isFound
    have resolves := itself _ innermost.1 free
    have again := workspace?_inner resolves nearStart marked (List.suffix_refl _) innermost.1
    rw [← isPath w (anchor.trans anchored)] at resolves again
    exact ⟨resolves, again⟩
  case unlinked =>
    intro reached met settled short
    obtain ⟨anchored, free⟩ := linkFree_of_settled standing settled short resolution near
    exact ⟨anchored, free.suffix within⟩

/-- A root with a link that leads to itself, and a link to a marked folder. -/
def loopView : View where
  files := ⟨[("loop", .link "loop"), ("x", .link "d"),
    ("d", .folder [("WORKSPACE", .file "" false)])]⟩
  directory := []

/-- Through the link to the marked folder. -/
theorem nearestWorkspace_link : loopView.Standing ∧
    loopView.workspace? (.ofText "/x/lib.rs") = .ok (some ⟨.ofText "/d"⟩) ∧
    ∃ resolved start,
      NearestWorkspace loopView (.ofText "/x/lib.rs") resolved start (some ⟨.ofText "/d"⟩) := by
  have located : loopView.workspace? (.ofText "/x/lib.rs") = .ok (some ⟨.ofText "/d"⟩) := by
    decide +kernel
  exact ⟨standing_root _, located, nearestWorkspace (standing_root _) located⟩

/-- Behind a loop a link is left standing: the folder that is found there is not found from
itself, and does not resolve to itself. -/
theorem workspace?_behind_loop :
    loopView.resolve (.ofText "/loop/../x") = .ok (.ofText "/x") ∧
      loopView.workspace? (.ofText "/loop/../x") = .ok (some ⟨.ofText "/x"⟩) ∧
      loopView.workspace? (.ofText "/x") = .ok (some ⟨.ofText "/d"⟩) ∧
      loopView.resolve (.ofText "/x") = .ok (.ofText "/d") := by
  decide +kernel

end View

end OwnerBuild
