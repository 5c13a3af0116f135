/-
# OwnerBuild.Proofs.Path.Order -- the order of paths, and sets of paths in order

Paths are ordered by their components, the anchor being the first one. No anchor can be taken for
a component, since only anchors hold slashes, so the components tell paths apart
(`key_injective`) and the order is a total one. A list of paths that is sorted and without
repetitions is therefore settled by what is in it (`eq_of_sorted`), and `sortedSet` is the one such
list of the paths that it is given, whatever their order and repetitions.
-/

import OwnerBuild.Proofs.Path.Text

namespace OwnerBuild

/-! ## Sets as sorted lists -/

section Sets

variable {α : Type} [BEq α] [LawfulBEq α] {le : α → α → Bool}

theorem nodup_eraseDups (xs : List α) : xs.eraseDups.Nodup := by
  match xs with
  | [] => simp
  | x :: rest =>
    have shorter := List.length_filter_le (fun y => !y == x) rest
    rw [List.eraseDups_cons, List.nodup_cons]
    refine ⟨?_, nodup_eraseDups _⟩
    intro again
    have other := (List.mem_filter.mp (List.mem_eraseDups.mp again)).2
    simp at other
termination_by xs.length

theorem nodup_sorted (xs : List α) : (xs.eraseDups.mergeSort le).Nodup :=
  (List.mergeSort_perm xs.eraseDups le).symm.nodup (nodup_eraseDups xs)

theorem mem_sorted {xs : List α} {x : α} : x ∈ xs.eraseDups.mergeSort le ↔ x ∈ xs := by
  rw [List.mem_mergeSort, List.mem_eraseDups]

omit [BEq α] [LawfulBEq α] in
/-- A sorted list of different items is settled by what is in it. -/
theorem eq_of_sorted {xs ys : List α} (antisymm : ∀ a b, le a b → le b a → a = b)
    (sorted : xs.Pairwise (le · ·)) (sorted' : ys.Pairwise (le · ·)) (nodup : xs.Nodup)
    (nodup' : ys.Nodup) (same : ∀ x, x ∈ xs ↔ x ∈ ys) : xs = ys :=
  List.Perm.eq_of_pairwise (fun a b _ _ => antisymm a b) sorted sorted'
    ((List.perm_ext_iff_of_nodup nodup nodup').mpr same)

end Sets

namespace Path

/-! ## The order -/

/-- No anchor is written like a component. -/
theorem anchor_text_ne {anchor : Anchor} (anchored : anchor ≠ .relative) (name : Part) :
    anchor.text ≠ name.val := by
  intro equal
  apply name.slash_not_mem
  rw [← equal]
  cases anchor with
  | relative => exact absurd rfl anchored
  | root | doubleRoot => decide

theorem anchor_text_injective {anchor anchor' : Anchor} (h : anchor.text = anchor'.text) :
    anchor = anchor' := by
  cases anchor <;> cases anchor' <;> first | rfl | exact absurd h (by decide)

theorem names_injective {parts parts' : List Part} (h : parts.map (·.val) = parts'.map (·.val)) :
    parts = parts' := (List.map_inj_right fun _ _ => Subtype.ext).mp h

theorem names_ne_anchored {anchor : Anchor} (anchored : anchor ≠ .relative)
    (parts parts' : List Part) : parts.map (·.val) ≠ anchor.text :: parts'.map (·.val) := by
  intro equal
  cases parts with
  | nil => cases equal
  | cons name _ => exact anchor_text_ne anchored name (List.cons.inj equal).1.symm

theorem key_relative (parts : List Part) : key ⟨.relative, parts⟩ = parts.map (·.val) := rfl

theorem key_anchored {anchor : Anchor} (anchored : anchor ≠ .relative) (parts : List Part) :
    key ⟨anchor, parts⟩ = anchor.text :: parts.map (·.val) := by
  rw [key, if_neg anchored]
  rfl

/-- **Paths are told apart by their components**, the anchor among them. -/
theorem key_injective {p q : Path} (h : p.key = q.key) : p = q := by
  obtain ⟨anchor, parts⟩ := p
  obtain ⟨anchor', parts'⟩ := q
  by_cases relative : anchor = .relative <;> by_cases relative' : anchor' = .relative
  · subst relative relative'
    rw [key_relative, key_relative] at h
    rw [names_injective h]
  · subst relative
    rw [key_relative, key_anchored relative'] at h
    exact absurd h (names_ne_anchored relative' parts parts')
  · subst relative'
    rw [key_relative, key_anchored relative] at h
    exact absurd h.symm (names_ne_anchored relative parts' parts)
  · rw [key_anchored relative, key_anchored relative'] at h
    obtain ⟨texts, names⟩ := List.cons.inj h
    rw [anchor_text_injective texts, names_injective names]

theorem le_iff {p q : Path} : p.le q = true ↔ ¬ q.key < p.key := by
  rw [le, Bool.not_eq_true', decide_eq_false_iff_not]

theorem le_total (p q : Path) : (p.le q || q.le p) = true := by
  rw [Bool.or_eq_true, le_iff, le_iff]
  rcases List.le_total p.key q.key with before | behind
  · exact .inl (List.not_lt.mpr before)
  · exact .inr (List.not_lt.mpr behind)

theorem le_trans {p q r : Path} (h : p.le q = true) (h' : q.le r = true) : p.le r = true := by
  rw [le_iff] at h h' ⊢
  exact List.not_lt.mpr (List.le_trans (List.not_lt.mp h) (List.not_lt.mp h'))

theorem le_antisymm {p q : Path} (h : p.le q = true) (h' : q.le p = true) : p = q := by
  rw [le_iff] at h h'
  exact key_injective (List.le_antisymm (List.not_lt.mp h) (List.not_lt.mp h'))

/-! ## Sets of paths -/

variable {ps : List Path} {p : Path}

theorem sortedSet_nodup (ps : List Path) : (sortedSet ps).Nodup := nodup_sorted ps

@[simp] theorem mem_sortedSet : p ∈ sortedSet ps ↔ p ∈ ps := mem_sorted

theorem sortedSet_sorted (ps : List Path) : (sortedSet ps).Pairwise (le · ·) := by
  have trans : ∀ p q r : Path, p.le q = true → q.le r = true → p.le r = true :=
    fun _ _ _ => le_trans
  exact List.pairwise_mergeSort trans le_total ps.eraseDups

/-- What is sorted and without repetitions stays as it is. -/
theorem sortedSet_eq_self (sorted : ps.Pairwise (le · ·)) (nodup : ps.Nodup) :
    sortedSet ps = ps := by
  apply eq_of_sorted (fun _ _ => le_antisymm) (sortedSet_sorted ps) sorted (sortedSet_nodup ps) nodup
  intro p
  rw [mem_sortedSet]

@[simp] theorem sortedSet_singleton (p : Path) : sortedSet [p] = [p] :=
  sortedSet_eq_self (List.pairwise_singleton _ p) (List.pairwise_singleton _ p)

end Path

end OwnerBuild
