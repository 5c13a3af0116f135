/-
# OwnerBuild.Proofs.Workspace.Missing -- lookups of what is missing

A path is looked up whether or not anything is there. What it resolves to is in a nearest folder,
and the lookup ends as the search from that folder does, unless it is refused on the way out
(`LooksOutward.nearest`). Where links were asked about at every name, the search from the folder is
the lookup of its own path, and what is refused on the way out is a matter of lengths
(`LooksOutward.tooFar_iff`).

So a missing path can fail to be looked up, but only one that could not be there: a name in a folder
fails as soon as it is longer than the system takes (`workspace?_long_name`), although the folder
alone decides what there is to be found.

File trees have no permissions, so the exact condition is about those in which every folder can be
looked into: a folder that may not be searched is refused by the system, too, and is not meant.
-/

import OwnerBuild.Proofs.FileTree.Unresolved
import OwnerBuild.Proofs.Workspace.Named
import OwnerBuild.Proofs.Workspace.Refused

namespace OwnerBuild.View

variable {v : View} {p resolved : Path} {folder outer : Place} {e : LookupError}

/-! ## Searches from a folder -/

/-- What a search finds that starts in a folder. -/
def workspaceFrom (v : View) (folder : Place) : Except LookupError (Option Workspace) :=
  match Workspace.firstMarked v.files folder.enclosing with
  | .ok found => .ok (found.map fun folder => ⟨folder.path⟩)
  | .error e => .error (.refused e)

theorem workspaceFrom_eq_error_iff : v.workspaceFrom folder = .error e ↔
    e = .refused .tooLong ∧ Workspace.Refused v.files folder := by
  unfold workspaceFrom
  cases searched : Workspace.firstMarked v.files folder.enclosing with
  | ok found =>
    refine iff_of_false (by simp) ?_
    rintro ⟨_, refused⟩
    cases searched.symm.trans (Workspace.firstMarked_eq_error_iff.mpr ⟨rfl, refused⟩)
  | error fault =>
    obtain ⟨rfl, refused⟩ := Workspace.firstMarked_eq_error_iff.mp searched
    simp [refused, eq_comm]

theorem workspace?_of_unresolved (failed : v.resolve p = .error e) : v.workspace? p = .error e := by
  rw [workspace?, failed]
  rfl

theorem workspace?_of_tooFar (resolution : v.resolve p = .ok resolved)
    (h : v.files.NearestFolder resolved.place folder)
    (far : Workspace.TooFar v.files resolved.place folder) :
    v.workspace? p = .error (.refused .tooLong) := by
  rw [workspace?, resolution, Except.bind, Workspace.placeAround_tooFar h far]

/-- A search that is not refused on the way out finds what one from the nearest folder finds. -/
theorem workspace?_of_near (resolution : v.resolve p = .ok resolved)
    (anchored : resolved.anchor = .root) (h : v.files.NearestFolder resolved.place folder)
    (near : ¬ Workspace.TooFar v.files resolved.place folder) :
    v.workspace? p = v.workspaceFrom folder := by
  rw [workspace?, resolution, Except.bind, Workspace.placeAround_nearest h near, anchored]
  rfl

/-- What has a place is not looked up exactly if something is refused on the way out to the nearest
folder or from there. -/
theorem workspace?_eq_error_iff (resolution : v.resolve p = .ok resolved)
    (anchored : resolved.anchor = .root) (h : v.files.NearestFolder resolved.place folder) :
    v.workspace? p = .error e ↔ e = .refused .tooLong ∧
      (Workspace.TooFar v.files resolved.place folder ∨ Workspace.Refused v.files folder) := by
  by_cases far : Workspace.TooFar v.files resolved.place folder
  · rw [workspace?_of_tooFar resolution h far]
    simp [far, eq_comm]
  · rw [workspace?_of_near resolution anchored h far, workspaceFrom_eq_error_iff]
    simp [far]

/-- A folder that resolves to itself is looked up from there. -/
theorem workspace?_of_isFolder (resolution : v.resolve folder.path = .ok folder.path)
    (isFolder : v.files.IsFolder folder) : v.workspace? folder.path = v.workspaceFrom folder := by
  rw [workspace?, resolution, Except.bind, place_path, Workspace.placeAround_of_isFolder isFolder]
  rfl

/-! ## Where links were asked about -/

/-- That a path is followed to its end with a link asked about at every name: what it comes to is
not too long a path from the working directory. -/
def Asked (v : View) (p : Path) : Prop :=
  ∃ reached met, v.trail p = .settled reached met ∧
    (reached.anchor = .relative → reached.text.utf8ByteSize < FileTree.longestPath)

instance (v : View) (p : Path) : Decidable (v.Asked p) :=
  match trail : v.trail p with
  | .settled reached met =>
    decidable_of_iff
      (reached.anchor = .relative → reached.text.utf8ByteSize < FileTree.longestPath) <| by
      constructor
      · intro short
        exact ⟨reached, met, trail, short⟩
      · rintro ⟨reached', met', settled, short⟩
        obtain ⟨rfl, rfl⟩ := Trail.settled.inj (trail.symm.trans settled)
        exact short
  | .looped _ => isFalse <| by
    rintro ⟨_, _, settled, _⟩
    cases trail.symm.trans settled
  | .stuck _ => isFalse <| by
    rintro ⟨_, _, settled, _⟩
    cases trail.symm.trans settled

theorem Asked.linkFree (asked : v.Asked p) (standing : v.Standing)
    (resolution : v.resolve p = .ok resolved) (inside : outer <:+ resolved.place)
    (short : outer.path.text.utf8ByteSize < FileTree.longestPath) : v.files.LinkFree outer := by
  obtain ⟨reached, met, settled, asked⟩ := asked
  exact linkFree_around_of_settled standing settled asked resolution inside short

theorem Asked.linkFree_folder (asked : v.Asked p) (standing : v.Standing)
    (resolution : v.resolve p = .ok resolved) (h : v.files.NearestFolder resolved.place folder) :
    v.files.LinkFree folder :=
  asked.linkFree standing resolution h.around (FileTree.short_of_status h.isFolder.ne_tooLong)

theorem up_not_mem_place (standing : v.Standing) (resolution : v.resolve p = .ok resolved) :
    Part.up ∉ resolved.place := by
  intro member
  exact up_not_mem_parts_of_resolve standing resolution (List.mem_reverse.mp member)

/-- The search from the nearest folder is then the lookup of its own path. -/
theorem Asked.workspaceFrom_eq (asked : v.Asked p) (standing : v.Standing)
    (resolution : v.resolve p = .ok resolved) (h : v.files.NearestFolder resolved.place folder) :
    v.workspaceFrom folder = v.workspace? folder.path := by
  have free := asked.linkFree_folder standing resolution h
  have itself := resolve_within standing resolution h.around free
  exact (workspace?_of_isFolder itself h.isFolder).symm

/-- What is too far out from there is too long. -/
theorem Asked.tooFar_iff (asked : v.Asked p) (standing : v.Standing)
    (resolution : v.resolve p = .ok resolved) (h : v.files.NearestFolder resolved.place folder) :
    Workspace.TooFar v.files resolved.place folder ↔ Workspace.TooLong resolved.place folder := by
  by_cases long : FileTree.longestPath ≤ resolved.place.path.text.utf8ByteSize
  · exact iff_of_true (.inl (FileTree.status_of_long long)) (.inl long)
  · have free := asked.linkFree standing resolution (List.suffix_refl _) (Nat.lt_of_not_le long)
    exact Workspace.tooFar_iff h (up_not_mem_place standing resolution) free

/-- And a marker that cannot be asked about has too long a path, or it is a link. -/
theorem Asked.exists_marker (asked : v.Asked p) (standing : v.Standing)
    (resolution : v.resolve p = .ok resolved) (h : v.files.NearestFolder resolved.place folder)
    (refused : Workspace.Refused v.files folder) :
    ∃ outer marker, outer <:+ folder ∧ marker ∈ Workspace.markers ∧
      (FileTree.longestPath ≤ (Place.path (marker :: outer)).text.utf8ByteSize ∨
        ∃ target, v.files.find? (marker :: outer) = some (.link target)) := by
  obtain ⟨outer, around, refusedAt, _⟩ := refused
  have free := asked.linkFree_folder standing resolution h
  have plain : Part.up ∉ outer := fun member =>
    up_not_mem_place standing resolution (h.around.subset (around.subset member))
  obtain ⟨marker, isMarker, why⟩ := Workspace.long_or_link_of_refusedAt
    (h.isFolder.suffix around) plain (free.suffix around) refusedAt
  exact ⟨outer, marker, around, isMarker, why⟩

/-! ## Lookups -/

/-- How a path that meets no loop is looked up, whether or not anything is there. -/
structure LooksOutward (v : View) (p : Path) : Prop where
  /-- The lookup fails exactly if the path has no place, if something on the way out to the nearest
  folder is too far, or if a marker cannot be asked about from there outwards. -/
  fails_iff : ∀ e, v.workspace? p = .error e ↔ v.Unresolved p e ∨
    e = .refused .tooLong ∧ ∃ resolved folder, v.resolve p = .ok resolved ∧
      v.files.NearestFolder resolved.place folder ∧
      (Workspace.TooFar v.files resolved.place folder ∨ Workspace.Refused v.files folder)
  /-- What has a place is in a nearest folder, there or not. -/
  enclosed : ∀ resolved, v.resolve p = .ok resolved → resolved.anchor = .root ∧
    ∃ folder, v.files.NearestFolder resolved.place folder
  /-- What is not too far out from it ends as the search from there. -/
  nearest : ∀ resolved folder, v.resolve p = .ok resolved →
    v.files.NearestFolder resolved.place folder →
      ¬ Workspace.TooFar v.files resolved.place folder → v.workspace? p = v.workspaceFrom folder
  /-- Where links were asked about, that is the lookup of the folder's own path. -/
  from_folder : v.Asked p → ∀ resolved folder, v.resolve p = .ok resolved →
    v.files.NearestFolder resolved.place folder →
      v.workspaceFrom folder = v.workspace? folder.path
  /-- What is too far is then too long. -/
  tooFar_iff : v.Asked p → ∀ resolved folder, v.resolve p = .ok resolved →
    v.files.NearestFolder resolved.place folder →
      (Workspace.TooFar v.files resolved.place folder ↔ Workspace.TooLong resolved.place folder)
  /-- And a marker that cannot be asked about has too long a path, or it is a link. -/
  refused : v.Asked p → ∀ resolved folder, v.resolve p = .ok resolved →
    v.files.NearestFolder resolved.place folder → Workspace.Refused v.files folder →
      ∃ outer marker, outer <:+ folder ∧ marker ∈ Workspace.markers ∧
        (FileTree.longestPath ≤ (Place.path (marker :: outer)).text.utf8ByteSize ∨
          ∃ target, v.files.find? (marker :: outer) = some (.link target))
  /-- So a lookup of what is not too long comes to a workspace or to none, and to the same as that
  of the folder, as long as every marker can be asked about. -/
  found : v.Asked p → ∀ resolved folder, v.resolve p = .ok resolved →
    v.files.NearestFolder resolved.place folder → ¬ Workspace.TooLong resolved.place folder →
      ¬ Workspace.Refused v.files folder →
        ∃ found, v.workspace? p = .ok found ∧ v.workspace? folder.path = .ok found

/-- **A path is looked up like the nearest folder around it**, and fails only for what is too
long, if every folder can be looked into. -/
theorem looksOutward (standing : v.Standing) (nulFree : v.NulFree) (clean : p.anyNul = false)
    (noLoop : (v.trail p).NoLoop) : LooksOutward v p := by
  have unresolved_iff : ∀ {e}, v.resolve p = .error e ↔ v.Unresolved p e :=
    resolve_eq_error_iff standing nulFree clean noLoop
  have anchored : ∀ {resolved}, v.resolve p = .ok resolved → resolved.anchor = .root := by
    intro resolved resolution
    obtain ⟨reached, met, settled⟩ := settled_of_resolve noLoop resolution
    exact (resolve_eq_ok_of_settled settled resolution).2.2.1
  refine ⟨?fails_iff, ?enclosed, ?nearest, ?from_folder, ?tooFar_iff, ?refused, ?found⟩
  case fails_iff =>
    intro e
    constructor
    · intro failed
      cases resolution : v.resolve p with
      | error e' =>
        rw [workspace?_of_unresolved resolution] at failed
        obtain rfl := Except.error.inj failed
        exact .inl (unresolved_iff.mp resolution)
      | ok resolved =>
        obtain ⟨folder, h⟩ := FileTree.exists_nearestFolder v.files resolved.place
        obtain ⟨rfl, why⟩ :=
          (workspace?_eq_error_iff resolution (anchored resolution) h).mp failed
        exact .inr ⟨rfl, resolved, folder, rfl, h, why⟩
    · rintro (unresolved | ⟨rfl, resolved, folder, resolution, h, why⟩)
      · exact workspace?_of_unresolved (unresolved_iff.mpr unresolved)
      · exact (workspace?_eq_error_iff resolution (anchored resolution) h).mpr ⟨rfl, why⟩
  case enclosed =>
    intro resolved resolution
    exact ⟨anchored resolution, FileTree.exists_nearestFolder v.files resolved.place⟩
  case nearest =>
    intro resolved folder resolution h near
    exact workspace?_of_near resolution (anchored resolution) h near
  case from_folder =>
    intro asked resolved folder resolution h
    exact asked.workspaceFrom_eq standing resolution h
  case tooFar_iff =>
    intro asked resolved folder resolution h
    exact asked.tooFar_iff standing resolution h
  case refused =>
    intro asked resolved folder resolution h refused
    exact asked.exists_marker standing resolution h refused
  case found =>
    intro asked resolved folder resolution h short unrefused
    have near := mt (asked.tooFar_iff standing resolution h).mp short
    have same := workspace?_of_near resolution (anchored resolution) h near
    rw [same, ← asked.workspaceFrom_eq standing resolution h]
    cases searched : v.workspaceFrom folder with
    | ok found => exact ⟨found, rfl, rfl⟩
    | error e => exact absurd (workspaceFrom_eq_error_iff.mp searched).2 unrefused

theorem namedView_nulFree : namedView.NulFree where
  directory := List.forall_mem_nil _
  files := by
    apply Node.NulFree.folder
    simp only [namedView, List.forall_mem_cons]
    refine ⟨.folder ?_, .folder ?_, .link ?_, List.forall_mem_nil _⟩
    · simp [Node.NulFree.file]
    · simp [Node.NulFree.file]
    · decide

/-- What is missing behind a link that leads back out of a missing folder is looked up like the
marked folder that is there. -/
theorem looksOutward_link : namedView.Standing ∧ namedView.NulFree ∧
    (Path.ofText "/link/gone/lib.rs").anyNul = false ∧
    (namedView.trail (.ofText "/link/gone/lib.rs")).NoLoop ∧
    namedView.Asked (.ofText "/link/gone/lib.rs") ∧
    namedView.resolve (.ofText "/link/gone/lib.rs") = .ok (.ofText "/ws/gone/lib.rs") ∧
    namedView.workspace? (.ofText "/link/gone/lib.rs") = .ok (some ⟨.ofText "/ws"⟩) ∧
    LooksOutward namedView (.ofText "/link/gone/lib.rs") := by
  have clean : (Path.ofText "/link/gone/lib.rs").anyNul = false := by decide +kernel
  have noLoop : (namedView.trail (.ofText "/link/gone/lib.rs")).NoLoop := by decide +kernel
  have looks : LooksOutward namedView (.ofText "/link/gone/lib.rs") :=
    looksOutward (standing_root _) namedView_nulFree clean noLoop
  refine ⟨standing_root _, namedView_nulFree, clean, noLoop, ?_, ?_, ?_, looks⟩
  · decide +kernel
  · decide +kernel
  · decide +kernel

/-! ## Names that are too long -/

/-- A name that is longer than the system takes is not looked up, though the folder that it is told
to be in can be. -/
theorem workspace?_long_name {name : Part} (isFolder : v.files.IsFolder folder)
    (plain : Part.up ∉ name :: folder) (noNul : ∀ part ∈ name :: folder, hasNul part = false)
    (free : v.files.LinkFree (name :: folder))
    (long : FileTree.longestName < name.val.utf8ByteSize) :
    v.workspace? (Place.path (name :: folder)) = .error (.refused .tooLong) := by
  have far : v.files.status (name :: folder) = .error .tooLong := by
    by_cases short : (Place.path (name :: folder)).text.utf8ByteSize < FileTree.longestPath
    · exact (FileTree.status_cons_of_folder isFolder plain free short).mpr long
    · exact FileTree.status_of_long (Nat.le_of_not_lt short)
  rw [workspace?, resolve_path plain noNul free, Except.bind, place_path, Workspace.placeAround,
    Workspace.startingFolder_tooLong far]
  rfl

theorem size_letters (count : Nat) :
    (String.ofList (List.replicate count 'n')).utf8ByteSize = count := by
  induction count with
  | zero => rfl
  | succ count ih =>
    rw [List.replicate_succ, String.ofList_cons, String.utf8ByteSize_append, ih]
    show 1 + count = count + 1
    omega

theorem mem_letters {count : Nat} {c : Char}
    (member : c ∈ (String.ofList (List.replicate count 'n')).toList) : c = 'n' := by
  rw [String.toList_ofList] at member
  exact List.eq_of_mem_replicate member

theorem isPart_letters {count : Nat} (several : 1 < count) :
    IsPart (String.ofList (List.replicate count 'n')) := by
  have size : ∀ s, String.ofList (List.replicate count 'n') = s → s.utf8ByteSize = count := by
    rintro _ rfl
    exact size_letters count
  refine ⟨?_, ?_, ?_⟩
  · intro same
    have : 0 = count := size _ same
    omega
  · intro same
    have : 1 = count := size _ same
    omega
  · intro member
    exact absurd (mem_letters member) (by decide)

/-- A name of 256 letters, the shortest that is too long. -/
def longName : Part := ⟨String.ofList (List.replicate 256 'n'), isPart_letters (by decide)⟩

theorem size_longName : longName.val.utf8ByteSize = 256 := size_letters 256

theorem longName_ne {s : String} (size : s.utf8ByteSize ≠ 256) : longName.val ≠ s := by
  rintro rfl
  exact size size_longName

theorem hasNul_longName : hasNul longName = false := by
  rw [hasNul, List.contains_eq_mem, decide_eq_false_iff_not]
  intro member
  exact absurd (mem_letters member) (by decide)

/-- The marked folder of the sample. -/
def markedFolder : Place := [⟨"ws", by decide⟩]

theorem find?_markedFolder (name : Part) : namedView.files.find? (name :: markedFolder) =
    [("WORKSPACE", .file "" false), ("lib.rs", .file "" false)].lookup name.val := rfl

/-- A missing name of 256 letters in a marked folder makes the lookup fail, though the folder itself
is found. -/
theorem failsOn_longName : namedView.Standing ∧ namedView.NulFree ∧
    (Place.path (longName :: markedFolder)).anyNul = false ∧
    (namedView.trail (Place.path (longName :: markedFolder))).NoLoop ∧
    namedView.files.find? (longName :: markedFolder) = none ∧
    namedView.workspace? (Place.path (longName :: markedFolder)) = .error (.refused .tooLong) ∧
    namedView.workspace? markedFolder.path = .ok (some ⟨markedFolder.path⟩) := by
  have noNul : ∀ name ∈ longName :: markedFolder, hasNul name = false :=
    List.forall_mem_cons.mpr ⟨hasNul_longName, by decide⟩
  have plain : Part.up ∉ longName :: markedFolder := by
    refine List.not_mem_cons_of_ne_of_not_mem ?_ (by decide)
    intro same
    exact longName_ne (by decide) (congrArg Subtype.val same.symm)
  have missing : namedView.files.find? (longName :: markedFolder) = none := by
    rw [find?_markedFolder, List.lookup_cons, beq_false_of_ne (longName_ne (by decide))]
    rw [List.lookup_cons, beq_false_of_ne (longName_ne (by decide))]
    rfl
  have free : namedView.files.LinkFree (longName :: markedFolder) := by
    refine FileTree.linkFree_cons_iff.mpr ⟨?_, FileTree.linkFree_of_folder (by rfl)⟩
    rw [missing]
    simp
  have long : FileTree.longestName < longName.val.utf8ByteSize := by
    rw [size_longName]
    decide
  refine ⟨standing_root _, namedView_nulFree, anyNul_path.mpr noNul, ?_, missing,
    workspace?_long_name ⟨_, by rfl⟩ plain noNul free long, by decide +kernel⟩
  rw [trail_path plain noNul free]
  intro spelled looped
  cases looped

end OwnerBuild.View
