/-
# OwnerBuild.Proofs.Workspace.Refused -- searches that are refused, and those that start in nothing

A search for a workspace asks one question after another, and it is refused exactly if one of them
is before any has been answered with yes (`firstMarked_eq_error_iff`).

Further in than the nearest folder there is nothing, so no question there is answered with yes. A
search that starts there either is refused on the way out, or comes to the nearest folder with
nothing found and ends as the search from that folder does (`placeAround_nearest`,
`placeAround_tooFar`). Where no link stands, the former is a matter of lengths (`tooFar_iff`).
-/

import OwnerBuild.Proofs.FileTree.NearestFolder
import OwnerBuild.Proofs.Workspace.Nearest

namespace OwnerBuild.Workspace

variable {t : FileTree} {p start folder inner : Place} {marker : Part} {names : List Part}
  {e : Fault}

/-! ## Refused questions -/

/-- That a question about names in a folder is refused, and none before it is answered with yes. -/
def RefusedAmong (t : FileTree) (folder : Place) (names : List Part) : Prop :=
  ∃ before name after, names = before ++ name :: after ∧
    (∀ other ∈ before, ¬ ∃ content executable,
      t.status (other :: folder) = .ok (.file content executable)) ∧
    t.status (name :: folder) = .error .tooLong

theorem holdsFile_eq_error_iff :
    t.holdsFile p = .error e ↔ e = .tooLong ∧ t.status p = .error .tooLong := by
  unfold FileTree.holdsFile
  cases t.status p with
  | ok n => cases n <;> simp
  | error fault =>
    unfold FileTree.plainNo
    cases fault <;> simp [eq_comm]

theorem not_refusedAmong_nil : ¬ RefusedAmong t folder [] := by
  rintro ⟨before, name, after, split, _, _⟩
  exact absurd split.symm (by simp)

theorem refusedAmong_cons {name : Part} : RefusedAmong t folder (name :: names) ↔
    t.status (name :: folder) = .error .tooLong ∨
      (¬ ∃ content executable, t.status (name :: folder) = .ok (.file content executable)) ∧
        RefusedAmong t folder names := by
  constructor
  · rintro ⟨before, refused, after, split, unmarked, far⟩
    cases before with
    | nil =>
      obtain ⟨rfl, _⟩ := List.cons.inj split
      exact .inl far
    | cons first before =>
      obtain ⟨rfl, rest⟩ := List.cons.inj split
      obtain ⟨noFile, unmarked⟩ := List.forall_mem_cons.mp unmarked
      exact .inr ⟨noFile, before, refused, after, rest, unmarked, far⟩
  · rintro (far | ⟨noFile, before, refused, after, rfl, unmarked, far⟩)
    · exact ⟨[], name, names, rfl, by simp, far⟩
    · exact ⟨name :: before, refused, after, rfl, List.forall_mem_cons.mpr ⟨noFile, unmarked⟩, far⟩

theorem holdsAny_eq_error_iff :
    holdsAny t folder names = .error e ↔ e = .tooLong ∧ RefusedAmong t folder names := by
  induction names with
  | nil =>
    refine iff_of_false ?_ (fun refused => not_refusedAmong_nil refused.2)
    rw [holdsAny]
    simp
  | cons name names ih =>
    rw [holdsAny, refusedAmong_cons]
    cases held : t.holdsFile (name :: folder) with
    | error fault =>
      obtain ⟨rfl, far⟩ := holdsFile_eq_error_iff.mp held
      simp [far, eq_comm]
    | ok isFile =>
      have near : t.status (name :: folder) ≠ .error .tooLong := by
        intro far
        rw [holdsFile_eq_error_iff.mpr ⟨rfl, far⟩] at held
        cases held
      have isFile_iff := FileTree.holdsFile_iff held
      cases isFile with
      | true =>
        have isFile := isFile_iff.mp rfl
        simp only [near, isFile, not_true_eq_false, false_and, or_self, and_false, reduceCtorEq]
      | false =>
        have noFile := mt isFile_iff.mpr Bool.false_ne_true
        dsimp only
        rw [ih]
        simp only [near, noFile, not_false_eq_true, true_and, false_or]

/-- That a question about a marker in a folder is refused before the folder is known to be
marked. -/
def RefusedAt (t : FileTree) (folder : Place) : Prop := RefusedAmong t folder markers

theorem isMarked_eq_error_iff :
    isMarked t folder = .error e ↔ e = .tooLong ∧ RefusedAt t folder := holdsAny_eq_error_iff

/-- What is no folder holds no marker, so any question there may be the one that is refused. -/
theorem refusedAt_iff_of_no_folder (none : ¬ t.IsFolder folder) :
    RefusedAt t folder ↔ ∃ marker ∈ markers, t.status (marker :: folder) = .error .tooLong := by
  constructor
  · rintro ⟨before, marker, after, split, _, far⟩
    refine ⟨marker, ?_, far⟩
    rw [split]
    exact List.mem_append_right _ List.mem_cons_self
  · rintro ⟨marker, isMarker, far⟩
    obtain ⟨before, after, split⟩ := List.append_of_mem isMarker
    refine ⟨before, marker, after, split, ?_, far⟩
    rintro other _ ⟨content, executable, standing⟩
    exact none (FileTree.exists_folder_of_status standing)

/-! ## Refused searches -/

/-- That a search from a folder outwards comes to a question that is refused before it comes to a
marked folder. -/
def Refused (t : FileTree) (start : Place) : Prop :=
  ∃ folder, folder <:+ start ∧ RefusedAt t folder ∧
    ∀ inner, folder <:+ inner → inner ≠ folder → inner <:+ start → ¬ Marked t inner

theorem refused_nil : Refused t [] ↔ RefusedAt t [] := by
  constructor
  · rintro ⟨folder, around, refused, _⟩
    rwa [List.suffix_nil.mp around] at refused
  · intro refused
    refine ⟨[], List.suffix_refl [], refused, ?_⟩
    intro inner _ other around
    exact absurd (List.suffix_nil.mp around) other

theorem refused_cons {name : Part} {outer : Place} : Refused t (name :: outer) ↔
    RefusedAt t (name :: outer) ∨ ¬ Marked t (name :: outer) ∧ Refused t outer := by
  constructor
  · rintro ⟨folder, around, refused, unmarked⟩
    rcases List.suffix_cons_iff.mp around with rfl | further
    · exact .inl refused
    · have other : name :: outer ≠ folder := by
        rintro rfl
        have longer := further.length_le
        simp only [List.length_cons] at longer
        omega
      refine .inr ⟨unmarked _ around other (List.suffix_refl _), folder, further, refused, ?_⟩
      intro inner within other inside
      exact unmarked inner within other (inside.trans (List.suffix_cons name outer))
  · rintro (refused | ⟨noMarker, folder, further, refused, unmarked⟩)
    · refine ⟨_, List.suffix_refl _, refused, ?_⟩
      intro inner within other inside
      exact absurd (inside.eq_of_length_le within.length_le) other
    · refine ⟨folder, further.trans (List.suffix_cons name outer), refused, ?_⟩
      intro inner within other inside
      rcases List.suffix_cons_iff.mp inside with rfl | inside
      · exact noMarker
      · exact unmarked inner within other inside

/-- **A search is refused exactly if a question is**, before a marked folder is found. -/
theorem firstMarked_eq_error_iff :
    firstMarked t start.enclosing = .error e ↔ e = .tooLong ∧ Refused t start := by
  have asked : ∀ place : Place, ∀ isMarked?, isMarked t place = .ok isMarked? →
      ¬ RefusedAt t place := by
    intro place isMarked? answered refused
    rw [isMarked_eq_error_iff.mpr ⟨rfl, refused⟩] at answered
    cases answered
  induction start with
  | nil =>
    rw [Place.enclosing, firstMarked, refused_nil]
    cases answered : isMarked t [] with
    | error fault =>
      obtain ⟨rfl, refused⟩ := isMarked_eq_error_iff.mp answered
      simp [refused, eq_comm]
    | ok marked =>
      have unrefused := asked [] marked answered
      cases marked <;> simp [unrefused, firstMarked]
  | cons name outer ih =>
    rw [Place.enclosing, firstMarked, refused_cons]
    cases answered : isMarked t (name :: outer) with
    | error fault =>
      obtain ⟨rfl, refused⟩ := isMarked_eq_error_iff.mp answered
      simp [refused, eq_comm]
    | ok marked =>
      have unrefused := asked _ marked answered
      have marked_iff := isMarked_iff answered
      cases marked with
      | true =>
        have isMarked := marked_iff.mp rfl
        simp [unrefused, isMarked]
      | false =>
        have unmarked := mt marked_iff.mpr Bool.false_ne_true
        refine ih.trans ?_
        simp only [unrefused, unmarked, not_false_eq_true, true_and, false_or]

/-! ## Searches that start in nothing -/

theorem startingFolder_of_isFolder (isFolder : t.IsFolder p) : startingFolder t p = .ok p := by
  obtain ⟨entries, standing⟩ := isFolder
  rw [startingFolder, FileTree.holdsFolder, standing]
  rfl

/-- The search around a folder starts there. -/
theorem placeAround_of_isFolder (isFolder : t.IsFolder p) :
    placeAround t p = firstMarked t p.enclosing := by
  rw [placeAround, startingFolder_of_isFolder isFolder]
  rfl

theorem startingFolder_of_no_folder (none : ¬ t.IsFolder p)
    (near : t.status p ≠ .error .tooLong) : startingFolder t p = .ok p.tail := by
  obtain ⟨held, asked⟩ := FileTree.exists_holdsFolder_iff.mpr near
  have noFolder : held ≠ true := mt (FileTree.holdsFolder_iff asked).mp none
  rw [startingFolder, asked, (Bool.not_eq_true held).mp noFolder]
  rfl

theorem startingFolder_tooLong (far : t.status p = .error .tooLong) :
    startingFolder t p = .error .tooLong := by
  rw [startingFolder, FileTree.holdsFolder, far]
  rfl

/-- That a search is refused before it comes out to a folder: the place that it is for is too far,
or a marker in a place on the way. -/
def TooFar (t : FileTree) (p folder : Place) : Prop :=
  t.status p = .error .tooLong ∨
    ∃ inner, folder <:+ inner ∧ inner ≠ folder ∧ inner <:+ p.tail ∧ RefusedAt t inner

/-- A search that is not refused on the way out to the nearest folder ends as the one from there. -/
theorem firstMarked_nearest (h : t.NearestFolder start folder)
    (unrefused : ∀ inner, folder <:+ inner → inner ≠ folder → inner <:+ start →
      ¬ RefusedAt t inner) :
    firstMarked t start.enclosing = firstMarked t folder.enclosing := by
  induction start with
  | nil => rw [List.suffix_nil.mp h.around]
  | cons name outer ih =>
    by_cases here : name :: outer = folder
    · rw [here]
    have around : t.NearestFolder outer folder := h.tail here
    have unmarked : isMarked t (name :: outer) = .ok false := by
      cases answered : isMarked t (name :: outer) with
      | error fault =>
        have refused := (isMarked_eq_error_iff.mp answered).2
        exact absurd refused (unrefused _ h.around here (List.suffix_refl _))
      | ok marked =>
        cases marked with
        | false => rfl
        | true => exact absurd ((isMarked_iff answered).mp rfl).isFolder (h.not_isFolder here)
    rw [Place.enclosing, firstMarked, unmarked]
    apply ih around
    intro inner within other inside
    exact unrefused inner within other (inside.trans (List.suffix_cons name outer))

/-- **The search around a place ends as the one from the nearest folder**, unless it is refused
before. -/
theorem placeAround_nearest (h : t.NearestFolder p folder) (near : ¬ TooFar t p folder) :
    placeAround t p = firstMarked t folder.enclosing := by
  obtain ⟨nearPlace, unrefused⟩ := not_or.mp near
  by_cases here : p = folder
  · subst here
    exact placeAround_of_isFolder h.isFolder
  · rw [placeAround, startingFolder_of_no_folder (h.not_isFolder here) nearPlace]
    apply firstMarked_nearest (h.tail here)
    intro inner within other inside refused
    exact unrefused ⟨inner, within, other, inside, refused⟩

/-- A search that is refused before comes to nothing. -/
theorem placeAround_tooFar (h : t.NearestFolder p folder) (far : TooFar t p folder) :
    placeAround t p = .error .tooLong := by
  by_cases farPlace : t.status p = .error .tooLong
  · rw [placeAround, startingFolder_tooLong farPlace]
    rfl
  obtain ⟨inner, within, other, inside, refused⟩ := far.resolve_left farPlace
  have here : p ≠ folder := by
    rintro rfl
    have around := inside.trans (List.tail_suffix p)
    exact other (around.eq_of_length_le within.length_le)
  rw [placeAround, startingFolder_of_no_folder (h.not_isFolder here) farPlace]
  apply firstMarked_eq_error_iff.mpr
  refine ⟨rfl, inner, inside, refused, ?_⟩
  intro further around _ toStart marked
  -- what is further in than the nearest folder is not marked
  have nearest := h.nearest further (toStart.trans (List.tail_suffix p)) marked.isFolder
  exact other ((around.trans nearest).eq_of_length_le within.length_le)

/-! ## Lengths -/

/-- That something is too long on the way out from a place to a folder: the path of the place, the
name that is entered from the folder, or the path of a marker where the search starts. -/
def TooLong (p folder : Place) : Prop :=
  FileTree.longestPath ≤ p.path.text.utf8ByteSize ∨
    (∃ name, name :: folder <:+ p ∧ FileTree.longestName < name.val.utf8ByteSize) ∨
    (folder <:+ p.tail ∧ p.tail ≠ folder ∧
      ∃ marker ∈ markers, FileTree.longestPath ≤ (Place.path (marker :: p.tail)).text.utf8ByteSize)

/-- **Where no link stands, a search is refused on the way out exactly if** something is too
long. -/
theorem tooFar_iff (h : t.NearestFolder p folder) (plain : Part.up ∉ p) (free : t.LinkFree p) :
    TooFar t p folder ↔ TooLong p folder := by
  unfold TooFar TooLong
  rw [FileTree.status_eq_tooLong_iff h plain free, or_assoc]
  apply or_congr_right'
  intro short
  apply or_congr_right'
  intro plainNames
  have near : t.status p ≠ .error .tooLong := by
    rw [Ne, FileTree.status_eq_tooLong_iff h plain free]
    exact not_or.mpr ⟨short, plainNames⟩
  have tail : p.tail <:+ p := List.tail_suffix p
  constructor
  · rintro ⟨inner, within, other, inside, refused⟩
    have further : folder <:+ p.tail := within.trans inside
    have notHere : p.tail ≠ folder := by
      intro same
      rw [same] at inside
      exact other (inside.eq_of_length_le within.length_le)
    have inPlace : inner <:+ p := inside.trans tail
    have none := (h.within inPlace within).not_isFolder other
    obtain ⟨marker, isMarker, far⟩ := (refusedAt_iff_of_no_folder none).mp refused
    refine ⟨further, notHere, marker, isMarker, ?_⟩
    -- what is around the place can be asked about, so the path is too long
    by_contra shorter
    have shortInner : (Place.path (marker :: inner)).text.utf8ByteSize < FileTree.longestPath := by
      have := Path.size_text_cons_mono inside marker
      omega
    have plainInner : Part.up ∉ inner := fun member => plain (inPlace.subset member)
    have farInner := (FileTree.status_cons_of_no_folder none plainInner (free.suffix inPlace)
      shortInner).mp far
    exact FileTree.status_suffix_ne_tooLong inPlace near farInner
  · rintro ⟨further, notHere, marker, isMarker, long⟩
    refine ⟨p.tail, further, notHere, List.suffix_refl _, ?_⟩
    have none := (h.within tail further).not_isFolder notHere
    exact (refusedAt_iff_of_no_folder none).mpr ⟨marker, isMarker, FileTree.status_of_long long⟩

/-- In a folder where no link stands, a question about a marker is refused only if the path of the
marker is too long, or if a link stands at it. -/
theorem long_or_link_of_refusedAt (isFolder : t.IsFolder folder) (plain : Part.up ∉ folder)
    (free : t.LinkFree folder) (refused : RefusedAt t folder) :
    ∃ marker ∈ markers, FileTree.longestPath ≤ (Place.path (marker :: folder)).text.utf8ByteSize ∨
      ∃ target, t.find? (marker :: folder) = some (.link target) := by
  obtain ⟨before, marker, after, split, _, far⟩ := refused
  have isMarker : marker ∈ markers := by
    rw [split]
    exact List.mem_append_right _ List.mem_cons_self
  refine ⟨marker, isMarker, ?_⟩
  by_contra other
  obtain ⟨short, noLink⟩ := not_or.mp other
  have plainMarker : Part.up ∉ marker :: folder := by
    refine List.not_mem_cons_of_ne_of_not_mem ?_ plain
    rintro rfl
    revert isMarker
    decide
  have freeMarker : t.LinkFree (marker :: folder) := by
    refine FileTree.linkFree_cons_iff.mpr ⟨?_, free⟩
    intro target standing
    exact noLink ⟨target, standing⟩
  have long := (FileTree.status_cons_of_folder isFolder plainMarker freeMarker
    (Nat.lt_of_not_le short)).mp far
  have fits : ∀ name ∈ markers, name.val.utf8ByteSize ≤ FileTree.longestName := by decide
  exact absurd (fits marker isMarker) (Nat.not_le.mpr long)

end OwnerBuild.Workspace
