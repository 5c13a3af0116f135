/-
# OwnerBuild.Proofs.FileTree.Directory -- a working directory stays one

A view is read from a working directory: a place that is spelled without `..`, with a folder at
it unless the folder is gone. `View.Standing` says so. It holds at the root, whatever becomes of
the files (`Standing.withFiles`), and in every folder that is entered (`Standing.enter`), so in
every view that a program can come to have.
-/

import OwnerBuild.FileTree.Change
import OwnerBuild.Proofs.FileTree.Walk

namespace OwnerBuild

namespace FileTree

variable {t : FileTree} {budget : Nat} {here there base : Place} {xs : List Stride}

/-! ## Places without `..` -/

/-- That a stride leads on from a place without `..`. -/
def Footing.LeadsPlain : Footing → Prop
  | .stops _ => True
  | .stands there => Part.up ∉ there
  | .meetsLink base _ => Part.up ∉ base

/-- A stride leads from a place without `..` to such a place. -/
theorem footing_leadsPlain (t : FileTree) (stride : Stride) (plain : Part.up ∉ here) :
    (t.footing here stride).LeadsPlain := by
  rw [footing.eq_def]
  split
  · cases stride with
    | inFolder => exact plain
    | into name =>
      dsimp only
      split
      · exact mt List.mem_of_mem_tail plain
      · next entered =>
        split
        · trivial
        · split
          · trivial
          · next target _ =>
            show Part.up ∉ linkBase here target
            unfold linkBase
            split
            · exact plain
            · exact List.not_mem_nil
          · exact List.not_mem_cons_of_ne_of_not_mem (Ne.symm entered) plain
  · trivial

/-- A walk leads to a place without `..`, if that is so of the walks behind links. -/
theorem plain_of_walk_of_links
    (links : ∀ base xs, Part.up ∉ base → t.beyondLink budget base xs = .ok there →
      Part.up ∉ there)
    (plain : Part.up ∉ here) (h : t.walk budget here xs = .ok there) : Part.up ∉ there := by
  induction xs generalizing here with
  | nil =>
    rw [walk_nil] at h
    obtain rfl := Except.ok.inj h
    exact plain
  | cons stride rest ih =>
    rw [walk_cons] at h
    have leads := t.footing_leadsPlain stride plain
    cases step : t.footing here stride with
    | stops e => simp [step] at h
    | stands there =>
      simp only [step] at h
      rw [step] at leads
      exact ih leads h
    | meetsLink base target =>
      simp only [step] at h
      rw [step] at leads
      exact links base _ leads h

/-- **A walk leads to a place without `..`.** -/
theorem plain_of_walk (plain : Part.up ∉ here) (h : t.walk budget here xs = .ok there) :
    Part.up ∉ there := by
  induction budget generalizing here xs with
  | zero =>
    apply plain_of_walk_of_links _ plain h
    intro _ _ _ walked
    cases walked
  | succ budget ih =>
    apply plain_of_walk_of_links _ plain h
    exact fun _ _ plain walked => ih plain walked

end FileTree

namespace View

variable {v v' : View} {text : String} {place : Place}

/-! ## Working directories -/

/-- That the working directory is one: its place is spelled without `..`, and if it is not gone
a folder is there. -/
structure Standing (v : View) : Prop where
  plain : Part.up ∉ v.directory
  folder : v.lost = 0 → ∃ entries, v.files.find? v.directory = some (.folder entries)

theorem standing_root (files : FileTree) : Standing { files, directory := [] } :=
  ⟨List.not_mem_nil, fun _ => ⟨files.entries, rfl⟩⟩

theorem exists_folder_of_countGone {t : FileTree} (h : t.countGone place = 0) :
    ∃ entries, t.find? place = some (.folder entries) := by
  cases place with
  | nil => exact ⟨t.entries, rfl⟩
  | cons name outer =>
    rw [FileTree.countGone.eq_def] at h
    dsimp only at h
    split at h
    · next entries standing => exact ⟨entries, standing⟩
    · cases h

/-- A working directory stays one whatever becomes of the files. -/
theorem Standing.withFiles (standing : v.Standing) (files : FileTree) :
    (v.withFiles files).Standing where
  plain := standing.plain
  folder := by
    intro present
    have none : max v.lost (files.countGone v.directory) = 0 := present
    exact exists_folder_of_countGone (Nat.eq_zero_of_le_zero (none ▸ Nat.le_max_right _ _))

/-- Climbing out of a folder leads to one around it. -/
theorem climbOut_suffix (lost : Nat) (here : Place) (names : List Part) :
    (climbOut lost here names).2.1 <:+ here := by
  induction lost generalizing here names with
  | zero => exact List.suffix_refl here
  | succ lost ih =>
    cases names with
    | nil => exact List.suffix_refl here
    | cons name rest =>
      rw [climbOut]
      split
      · exact (ih here.tail rest).trans (List.tail_suffix here)
      · exact List.suffix_refl here

/-- **What is entered is a working directory.** -/
theorem Standing.enter (standing : v.Standing) (h : v.enter text = .ok v') : v'.Standing := by
  have plain : ∀ lost names, Part.up ∉ (climbOut lost v.directory names).2.1 :=
    fun lost names member =>
      standing.plain ((climbOut_suffix lost v.directory names).subset member)
  unfold View.enter at h
  dsimp only at h
  split at h
  · cases h
  · split at h
    · cases h
    · have climbed := plain (if (Path.ofText text).anchor = .relative then v.lost else 0)
        (Path.ofText text).parts
      split at h
      · next here names left =>
        rw [left] at climbed
        split at h
        · cases h
        · next there walked =>
          split at h
          · next entries folder =>
            obtain rfl := Except.ok.inj h
            refine ⟨?_, fun _ => ⟨entries, folder⟩⟩
            unfold FileTree.locateFrom at walked
            split at walked
            · cases walked
            · refine FileTree.plain_of_walk ?_ walked
              unfold Path.startFrom
              split
              · exact climbed
              · exact List.not_mem_nil
          · cases h
          · cases h
      · next lost here remain left =>
        rw [left] at climbed
        obtain rfl := Except.ok.inj h
        exact ⟨climbed, fun present => absurd present remain⟩
      · cases h

end View

end OwnerBuild
