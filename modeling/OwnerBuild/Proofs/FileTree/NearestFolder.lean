/-
# OwnerBuild.Proofs.FileTree.NearestFolder -- the innermost folder that is there

Going out from any place there is a first folder, at the latest the root (`exists_nearestFolder`).
Further in there is no folder, so nothing else either: a question about a place there is answered
with no, or it is refused because the place is too far.

Where no link stands, lengths alone decide which (`status_eq_tooLong_iff`). A place is too far if
its path is too long to be asked about, or if the name that is entered from the nearest folder is
too long; what is behind that name is not looked at.
-/

import OwnerBuild.Proofs.FileTree.Walk

namespace OwnerBuild

namespace Path

variable {outer inner : Place}

/-! ## Lengths of absolute paths -/

theorem joined_append_singleton {parts : List Part} (some : parts ≠ []) (name : Part) :
    joined (parts ++ [name]) = joined parts ++ "/" ++ name.val := by
  induction parts with
  | nil => exact absurd rfl some
  | cons first rest ih =>
    rw [← String.toList_inj]
    cases rest with
    | nil =>
      rw [List.singleton_append, toList_joined_cons, joined_singleton, joined_singleton]
      simp
    | cons second rest =>
      have further := congrArg String.toList (ih (List.cons_ne_nil _ _))
      rw [List.cons_append] at further
      rw [List.cons_append, List.cons_append, toList_joined_cons, further]
      simp [toList_joined_cons]

/-- A further name adds its length and that of a slash, but for the slash at the root. -/
theorem size_text_cons (name : Part) (outer : Place) :
    (Place.path (name :: outer)).text.utf8ByteSize =
      (if outer = [] then 1 else (Place.path outer).text.utf8ByteSize + 1) +
        name.val.utf8ByteSize := by
  have spelled : ∀ place : Place, place.path.text = "/" ++ joined place.reverse := by
    intro place
    exact if_neg (fun nothing => by cases nothing.1)
  have slash : "/".utf8ByteSize = 1 := rfl
  rw [spelled, spelled, List.reverse_cons, String.utf8ByteSize_append, slash]
  split
  · next root => rw [root, List.reverse_nil, List.nil_append, joined_singleton]
  · next some =>
    rw [joined_append_singleton (by simpa using some), String.utf8ByteSize_append,
      String.utf8ByteSize_append, String.utf8ByteSize_append, slash]
    omega

/-- A place that is further in has a longer path. -/
theorem size_text_mono (around : outer <:+ inner) :
    outer.path.text.utf8ByteSize ≤ inner.path.text.utf8ByteSize := by
  induction inner with
  | nil =>
    obtain rfl := List.suffix_nil.mp around
    exact Nat.le_refl _
  | cons name rest ih =>
    rcases List.suffix_cons_iff.mp around with rfl | further
    · exact Nat.le_refl _
    · rw [FileTree.path_cons]
      exact Nat.le_trans (ih further) (size_text_le_child _ name)

/-- So has a name that is further in. -/
theorem size_text_cons_mono (around : outer <:+ inner) (name : Part) :
    (Place.path (name :: outer)).text.utf8ByteSize ≤
      (Place.path (name :: inner)).text.utf8ByteSize := by
  have shorter := size_text_mono around
  rw [size_text_cons, size_text_cons]
  split
  · split <;> omega
  · next some =>
    have inside : inner ≠ [] := by
      rintro rfl
      exact some (List.suffix_nil.mp around)
    rw [if_neg inside]
    omega

end Path

namespace FileTree

variable {t : FileTree} {budget : Nat} {here there p folder start outer : Place} {name : Part}
  {names : List Part} {e : Fault}

/-! ## Folders -/

/-- That a place leads to a folder. -/
def IsFolder (t : FileTree) (p : Place) : Prop := ∃ entries, t.status p = .ok (.folder entries)

theorem isFolder_root (t : FileTree) : t.IsFolder [] := ⟨t.entries, rfl⟩

/-- What is around a folder is a folder. -/
theorem IsFolder.suffix (isFolder : t.IsFolder p) (around : outer <:+ p) : t.IsFolder outer := by
  induction p with
  | nil =>
    rw [List.suffix_nil.mp around]
    exact isFolder
  | cons name rest ih =>
    rcases List.suffix_cons_iff.mp around with rfl | further
    · exact isFolder
    · obtain ⟨entries, standing⟩ := isFolder
      exact ih (exists_folder_of_status standing) further

theorem IsFolder.ne_tooLong (isFolder : t.IsFolder p) : t.status p ≠ .error .tooLong := by
  obtain ⟨entries, standing⟩ := isFolder
  rw [standing]
  simp

/-- The innermost folder that a place is in, or that it is. -/
structure NearestFolder (t : FileTree) (p folder : Place) : Prop where
  around : folder <:+ p
  isFolder : t.IsFolder folder
  nearest : ∀ other, other <:+ p → t.IsFolder other → other <:+ folder

theorem IsFolder.nearestFolder (isFolder : t.IsFolder p) : t.NearestFolder p p :=
  ⟨List.suffix_refl p, isFolder, fun _ around _ => around⟩

/-- **Every place is in a nearest folder.** -/
theorem exists_nearestFolder (t : FileTree) (p : Place) : ∃ folder, t.NearestFolder p folder := by
  induction p with
  | nil => exact ⟨[], (isFolder_root t).nearestFolder⟩
  | cons name outer ih =>
    by_cases here : t.IsFolder (name :: outer)
    · exact ⟨_, here.nearestFolder⟩
    · obtain ⟨folder, around, isFolder, nearest⟩ := ih
      refine ⟨folder, around.trans (List.suffix_cons name outer), isFolder, ?_⟩
      intro other inside isOther
      rcases List.suffix_cons_iff.mp inside with rfl | inside
      · exact absurd isOther here
      · exact nearest other inside isOther

theorem NearestFolder.within (h : t.NearestFolder p folder) (inside : start <:+ p)
    (around : folder <:+ start) : t.NearestFolder start folder where
  around := around
  isFolder := h.isFolder
  nearest := fun other further => h.nearest other (further.trans inside)

/-- Further in than the nearest folder there is none. -/
theorem NearestFolder.not_isFolder (h : t.NearestFolder p folder) (other : p ≠ folder) :
    ¬ t.IsFolder p := by
  intro isFolder
  have inside : p <:+ folder := h.nearest p (List.suffix_refl p) isFolder
  exact other (inside.eq_of_length_le h.around.length_le)

/-- The nearest folder of a place that is no folder is that of the place around it. -/
theorem NearestFolder.tail (h : t.NearestFolder p folder) (other : p ≠ folder) :
    t.NearestFolder p.tail folder := by
  apply h.within (List.tail_suffix p)
  cases p with
  | nil => exact absurd (List.suffix_nil.mp h.around).symm other
  | cons name outer =>
    rcases List.suffix_cons_iff.mp h.around with same | around
    · exact absurd same.symm other
    · exact around

/-! ## Places without links -/

/-- A walk that meets no link ends where it is told to, or fails on the way. -/
theorem walk_append_plain (plain : Part.up ∉ names) (free : t.LinkFree (names.reverse ++ here))
    (rest : List Stride) : t.walk budget here (names.map .into ++ rest) =
      (t.walk budget here (names.map .into)).bind fun _ =>
        t.walk budget (names.reverse ++ here) rest := by
  induction names generalizing here with
  | nil =>
    rw [List.map_nil, List.nil_append, walk_nil]
    rfl
  | cons name names ih =>
    obtain ⟨noUp, plain⟩ := not_or.mp (mt List.mem_cons.mpr plain)
    have split : (name :: names).reverse ++ here = names.reverse ++ name :: here := by simp
    rw [split] at free ⊢
    have noLink := (linkFree_cons_iff.mp (free.suffix (List.suffix_append _ _))).1
    rw [List.map_cons, List.cons_append, walk_cons, walk_cons]
    rcases footing_plain (Ne.symm noUp) noLink with stands | ⟨e, _, stops⟩
    · rw [stands]
      exact ih plain free
    · rw [stops]
      rfl

/-- Where no link is on the way, a further name is entered from where it is told to be. -/
theorem locateFrom_cons (plain : Part.up ∉ outer) (free : t.LinkFree outer)
    (short : (Place.path (name :: outer)).text.utf8ByteSize < longestPath) :
    t.locateFrom [] (Place.path (name :: outer)) =
      (t.walk linkBudget [] (outer.reverse.map .into)).bind fun _ =>
        t.walk linkBudget outer [.into name] := by
  have free : t.LinkFree (outer.reverse.reverse ++ []) := by simpa using free
  have walked : t.walk linkBudget [] (outer.reverse.map .into ++ [.into name]) = _ :=
    walk_append_plain (by simpa using plain) free [.into name]
  rw [locateFrom_path short, strides_cons, walked, List.reverse_reverse, List.append_nil]

theorem eq_of_walk (plain : Part.up ∉ p) (free : t.LinkFree p)
    (reached : t.walk linkBudget [] (p.reverse.map .into) = .ok there) : there = p := by
  have free : t.LinkFree (p.reverse.reverse ++ []) := by simpa using free
  have walked : t.walk linkBudget [] (p.reverse.map .into ++ []) = _ :=
    walk_append_plain (by simpa using plain) free []
  rw [List.append_nil, List.reverse_reverse, List.append_nil, walk_nil, reached] at walked
  exact Except.ok.inj walked

/-- A folder without links on the way stands at its place. -/
theorem IsFolder.walk_eq (isFolder : t.IsFolder p) (plain : Part.up ∉ p) (free : t.LinkFree p) :
    t.walk linkBudget [] (p.reverse.map .into) = .ok p ∧
      ∃ entries, t.find? p = some (.folder entries) := by
  obtain ⟨entries, standing⟩ := isFolder
  have short : p.path.text.utf8ByteSize < longestPath := short_of_status (by rw [standing]; simp)
  rw [status, locateFrom_path short] at standing
  cases reached : t.walk linkBudget [] (p.reverse.map .into) with
  | error e =>
    rw [reached] at standing
    cases standing
  | ok there =>
    rw [reached] at standing
    obtain rfl := eq_of_walk plain free reached
    refine ⟨rfl, entries, ?_⟩
    simp only [Except.bind] at standing
    split at standing
    · next n found => rw [found, Except.ok.inj standing]
    · cases standing

/-- A name in a folder is too far exactly if it is too long itself. -/
theorem status_cons_of_folder (isFolder : t.IsFolder outer) (plain : Part.up ∉ name :: outer)
    (free : t.LinkFree (name :: outer))
    (short : (Place.path (name :: outer)).text.utf8ByteSize < longestPath) :
    t.status (name :: outer) = .error .tooLong ↔ longestName < name.val.utf8ByteSize := by
  obtain ⟨entered, plain⟩ := not_or.mp (mt List.mem_cons.mpr plain)
  obtain ⟨noLink, free⟩ := linkFree_cons_iff.mp free
  obtain ⟨reached, entries, standing⟩ := isFolder.walk_eq plain free
  rw [status, locateFrom_cons plain free short, reached]
  simp only [Except.bind]
  rw [walk_cons, footing, standing]
  dsimp only
  rw [if_neg (Ne.symm entered)]
  by_cases long : longestName < name.val.utf8ByteSize
  · rw [if_pos long]
    exact iff_of_true rfl long
  · rw [if_neg long]
    refine iff_of_false ?_ long
    cases found : t.find? (name :: outer) with
    | none => simp
    | some n =>
      cases n with
      | link target => exact absurd found (noLink target)
      | file content executable => simp [walk_nil, found]
      | folder entries => simp [walk_nil, found]

/-- A name that is in no folder is too far exactly if what is around it is. -/
theorem status_cons_of_no_folder (none : ¬ t.IsFolder outer) (plain : Part.up ∉ outer)
    (free : t.LinkFree outer)
    (short : (Place.path (name :: outer)).text.utf8ByteSize < longestPath) :
    t.status (name :: outer) = .error .tooLong ↔ t.status outer = .error .tooLong := by
  constructor
  · intro far
    have failed := walk_error_of_status short far (by decide)
    have walked := locateFrom_cons plain free short
    rw [locateFrom_path short, failed] at walked
    cases reached : t.walk linkBudget [] (outer.reverse.map .into) with
    | error e =>
      rw [reached] at walked
      obtain rfl := Except.error.inj walked
      exact status_of_walk_error (short_outer short) reached
    | ok there =>
      -- a name is only measured in a folder, and none is there
      rw [reached] at walked
      obtain rfl := eq_of_walk plain free reached
      replace walked : Except.error .tooLong = t.walk linkBudget there [.into name] := walked
      rw [walk_cons, footing] at walked
      cases standing : t.find? there with
      | none =>
        rw [standing] at walked
        cases walked
      | some n =>
        cases n with
        | file content executable =>
          rw [standing] at walked
          cases walked
        | link target =>
          rw [standing] at walked
          cases walked
        | folder entries =>
          refine absurd ⟨entries, ?_⟩ none
          rw [status, locateFrom_path (short_outer short), reached]
          simp only [Except.bind, standing]
  · intro far
    apply Classical.byContradiction
    intro near
    exact status_outer_ne_tooLong near far

/-! ## Places that are too far -/

theorem status_of_long (long : longestPath ≤ p.path.text.utf8ByteSize) :
    t.status p = .error .tooLong := by
  rw [status, locateFrom_path_long long]
  rfl

/-- A place with a path that can be asked about is too far exactly if the name is too long that is
entered from the nearest folder. -/
theorem status_eq_tooLong_iff_of_short (h : t.NearestFolder p folder) (plain : Part.up ∉ p)
    (free : t.LinkFree p) (short : p.path.text.utf8ByteSize < longestPath) :
    t.status p = .error .tooLong ↔
      ∃ name, name :: folder <:+ p ∧ longestName < name.val.utf8ByteSize := by
  induction p with
  | nil =>
    refine iff_of_false (isFolder_root t).ne_tooLong ?_
    rintro ⟨name, inside, _⟩
    exact absurd (List.suffix_nil.mp inside) (List.cons_ne_nil _ _)
  | cons name outer ih =>
    by_cases here : name :: outer = folder
    · subst here
      refine iff_of_false h.isFolder.ne_tooLong ?_
      rintro ⟨further, inside, _⟩
      have longer := inside.length_le
      simp only [List.length_cons] at longer
      omega
    have around : t.NearestFolder outer folder := h.tail here
    obtain ⟨_, plainOuter⟩ := not_or.mp (mt List.mem_cons.mpr plain)
    have freeOuter := (linkFree_cons_iff.mp free).2
    by_cases inFolder : outer = folder
    · subst inFolder
      rw [status_cons_of_folder around.isFolder plain free short]
      constructor
      · intro long
        exact ⟨name, List.suffix_refl _, long⟩
      · rintro ⟨entered, inside, long⟩
        have same := inside.eq_of_length_le (Nat.le_refl _)
        rw [← (List.cons.inj same).1]
        exact long
    · have further := ih around plainOuter freeOuter (short_outer short)
      have none := around.not_isFolder inFolder
      rw [status_cons_of_no_folder none plainOuter freeOuter short, further]
      apply exists_congr
      intro entered
      apply and_congr_left
      intro _
      -- the name that is entered from the folder is not the last one
      rw [List.suffix_cons_iff]
      refine ⟨.inr, fun inside => inside.resolve_left ?_⟩
      intro same
      exact inFolder (List.cons.inj same).2.symm

/-- **Where no link stands, lengths decide what is too far**: that of the path, and that of the name
that is entered from the nearest folder. -/
theorem status_eq_tooLong_iff (h : t.NearestFolder p folder) (plain : Part.up ∉ p)
    (free : t.LinkFree p) : t.status p = .error .tooLong ↔
      longestPath ≤ p.path.text.utf8ByteSize ∨
        ∃ name, name :: folder <:+ p ∧ longestName < name.val.utf8ByteSize := by
  by_cases long : longestPath ≤ p.path.text.utf8ByteSize
  · exact iff_of_true (status_of_long long) (.inl long)
  · rw [status_eq_tooLong_iff_of_short h plain free (Nat.lt_of_not_le long)]
    exact (or_iff_right long).symm

end FileTree

end OwnerBuild
