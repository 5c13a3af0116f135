/-
# OwnerBuild.Proofs.FileTree.Walk -- walks along a path and along its beginnings

What a walk meets it meets in order. If it fails along a path it fails in the same way along
every path that goes on from there (`walk_append_error`), and if it succeeds it has passed,
at every point of the path, through a folder that the beginning of the path leads to
(`exists_walk_of_append`). These hold with any links on the way. So whatever stands at a name
stands in a folder (`exists_folder_of_status`), and what can be asked about a place can be
asked about the folders around it (`status_suffix_ne_tooLong`).

Where no link is on the way a walk follows none, so the limit on links is never what it fails
at (`status_ne_tooManyLinks`).
-/

import OwnerBuild.FileTree.Status
import OwnerBuild.Proofs.Path.Text

namespace OwnerBuild.FileTree

variable {t : FileTree} {budget : Nat} {here there : Place} {xs ys : List Stride} {e : Fault}

/-! ## Single strides -/

/-- What a single stride comes to: the walk stops, or it stands somewhere else, or it meets a
link that leads on from a folder. -/
inductive Footing where
  | stops (e : Fault)
  | stands (there : Place)
  | meetsLink (base : Place) (target : List Stride)

/-- What a stride comes to. -/
def footing (t : FileTree) (here : Place) (stride : Stride) : Footing :=
  match t.find? here with
  | some (.folder _) =>
    match stride with
    | .inFolder => .stands here
    | .into name =>
      if name = Part.up then .stands here.tail
      else if name.val.utf8ByteSize > longestName then .stops .tooLong
      else match t.find? (name :: here) with
        | none => .stops .missing
        | some (.link target) => .meetsLink (linkBase here target) (stridesOf target)
        | some _ => .stands (name :: here)
  | _ => .stops .notFolder

/-- A walk goes on from where its first stride leads. -/
theorem walkWith_cons (t : FileTree) (enter : Place → List Stride → Except Fault Place)
    (here : Place) (stride : Stride) (rest : List Stride) :
    t.walkWith enter here (stride :: rest) = match t.footing here stride with
      | .stops e => .error e
      | .stands there => t.walkWith enter there rest
      | .meetsLink base target => enter base (target ++ rest) := by
  rw [walkWith.eq_def, footing.eq_def]
  dsimp only
  cases t.find? here with
  | none => rfl
  | some n =>
    cases n with
    | file | link => rfl
    | folder entries =>
      cases stride with
      | inFolder => rfl
      | into name =>
        dsimp only
        split
        · rfl
        · split
          · rfl
          · cases t.find? (name :: here) with
            | none => rfl
            | some n => cases n <;> rfl

/-- Where a walk goes on from a link, with the links that may still be followed. -/
def beyondLink (t : FileTree) : (budget : Nat) → Place → List Stride → Except Fault Place
  | 0 => fun _ _ => .error .tooManyLinks
  | budget + 1 => t.walk budget

theorem walk_eq_walkWith (t : FileTree) (budget : Nat) :
    t.walk budget = t.walkWith (t.beyondLink budget) := by
  cases budget <;> rfl

/-- A walk goes on from where its first stride leads, behind a link with one link less. -/
theorem walk_cons (t : FileTree) (budget : Nat) (here : Place) (stride : Stride)
    (rest : List Stride) :
    t.walk budget here (stride :: rest) = match t.footing here stride with
      | .stops e => .error e
      | .stands there => t.walk budget there rest
      | .meetsLink base target => t.beyondLink budget base (target ++ rest) := by
  rw [walk_eq_walkWith, walkWith_cons]

theorem walk_nil (t : FileTree) (budget : Nat) (here : Place) :
    t.walk budget here [] = .ok here := by
  rw [walk_eq_walkWith, walkWith.eq_def]

/-- A stride is only made in a folder. -/
theorem exists_folder_of_walk {stride : Stride} {rest : List Stride}
    (h : t.walk budget here (stride :: rest) = .ok there) :
    ∃ entries, t.find? here = some (.folder entries) := by
  rw [walk_eq_walkWith, walkWith.eq_def] at h
  dsimp only at h
  split at h
  · next entries standing => exact ⟨entries, standing⟩
  · cases h

/-! ## Paths and their beginnings -/

/-- A failure along the beginning of a path is the failure along the path, if that is so of the
walks behind links. -/
theorem walk_append_error_of_links
    (links : ∀ base xs ys, t.beyondLink budget base xs = .error e →
      t.beyondLink budget base (xs ++ ys) = .error e)
    (h : t.walk budget here xs = .error e) (ys : List Stride) :
    t.walk budget here (xs ++ ys) = .error e := by
  induction xs generalizing here with
  | nil =>
    rw [walk_nil] at h
    cases h
  | cons stride rest ih =>
    rw [List.cons_append, walk_cons]
    rw [walk_cons] at h
    cases step : t.footing here stride with
    | stops e' => simpa only [step] using h
    | stands there =>
      simp only [step] at h
      exact ih h
    | meetsLink base target =>
      simp only [step] at h
      simp only [← List.append_assoc]
      exact links base _ ys h

/-- **A failure along the beginning of a path is the failure along the path.** -/
theorem walk_append_error (h : t.walk budget here xs = .error e) (ys : List Stride) :
    t.walk budget here (xs ++ ys) = .error e := by
  induction budget generalizing here xs ys with
  | zero =>
    refine walk_append_error_of_links ?_ h ys
    exact fun _ _ _ failed => failed
  | succ budget ih =>
    refine walk_append_error_of_links ?_ h ys
    exact fun _ _ ys failed => ih failed ys

/-- A walk along a path has walked along its beginning, if that is so of the walks behind links. -/
theorem exists_walk_of_append_of_links
    (links : ∀ base xs, t.beyondLink budget base (xs ++ ys) = .ok there →
      ∃ middle left, t.beyondLink budget base xs = .ok middle ∧ t.walk left middle ys = .ok there)
    (h : t.walk budget here (xs ++ ys) = .ok there) :
    ∃ middle left, t.walk budget here xs = .ok middle ∧ t.walk left middle ys = .ok there := by
  induction xs generalizing here with
  | nil => exact ⟨here, budget, walk_nil t budget here, h⟩
  | cons stride rest ih =>
    rw [List.cons_append, walk_cons] at h
    rw [walk_cons]
    cases step : t.footing here stride with
    | stops e => simp [step] at h
    | stands there =>
      simp only [step] at h
      exact ih h
    | meetsLink base target =>
      simp only [step, ← List.append_assoc] at h
      exact links base _ h

/-- **A walk along a path has walked along its beginning**, and goes on from there with the links
that may still be followed. -/
theorem exists_walk_of_append (h : t.walk budget here (xs ++ ys) = .ok there) :
    ∃ middle left, t.walk budget here xs = .ok middle ∧ t.walk left middle ys = .ok there := by
  induction budget generalizing here xs with
  | zero =>
    apply exists_walk_of_append_of_links _ h
    intro _ _ walked
    cases walked
  | succ budget ih =>
    apply exists_walk_of_append_of_links _ h
    exact fun _ _ walked => ih walked

/-! ## What stands at a place -/

theorem path_cons (name : Part) (outer : Place) :
    Place.path (name :: outer) = (Place.path outer).child name := by
  simp [Place.path, Path.child]

/-- A place that can be walked to is found by a path that is short enough. -/
theorem locateFrom_path {p : Place} (short : p.path.text.utf8ByteSize < longestPath) :
    t.locateFrom [] p.path = t.walk linkBudget [] (p.reverse.map .into) :=
  if_neg (Nat.not_le.mpr short)

theorem locateFrom_path_long {p : Place} (long : longestPath ≤ p.path.text.utf8ByteSize) :
    t.locateFrom [] p.path = .error .tooLong :=
  if_pos long

theorem short_of_status {p : Place} (h : t.status p ≠ .error .tooLong) :
    p.path.text.utf8ByteSize < longestPath := by
  refine Nat.lt_of_not_le fun long => h ?_
  rw [status, locateFrom_path_long long]
  rfl

theorem short_outer {name : Part} {outer : Place}
    (short : (Place.path (name :: outer)).text.utf8ByteSize < longestPath) :
    (Place.path outer).text.utf8ByteSize < longestPath := by
  rw [path_cons] at short
  exact Nat.lt_of_le_of_lt (Path.size_text_le_child _ name) short

theorem strides_cons (name : Part) (outer : Place) :
    (name :: outer).reverse.map Stride.into = outer.reverse.map .into ++ [.into name] := by
  simp

/-- **What stands at a name stands in a folder.** -/
theorem exists_folder_of_status {name : Part} {outer : Place} {n : Node}
    (h : t.status (name :: outer) = .ok n) :
    ∃ entries, t.status outer = .ok (.folder entries) := by
  have short : (Place.path (name :: outer)).text.utf8ByteSize < longestPath :=
    short_of_status (by rw [h]; simp)
  rw [status, locateFrom_path short, strides_cons] at h
  cases walked : t.walk linkBudget [] (outer.reverse.map .into ++ [.into name]) with
  | error e =>
    rw [walked] at h
    cases h
  | ok there =>
    obtain ⟨middle, left, toOuter, toName⟩ := exists_walk_of_append walked
    obtain ⟨entries, standing⟩ := exists_folder_of_walk toName
    refine ⟨entries, ?_⟩
    rw [status, locateFrom_path (short_outer short), toOuter]
    simp only [Except.bind, standing]

/-- Where the walk fails there is nothing to be asked. -/
theorem status_of_walk_error {p : Place} (short : p.path.text.utf8ByteSize < longestPath)
    (h : t.walk linkBudget [] (p.reverse.map .into) = .error e) : t.status p = .error e := by
  rw [status, locateFrom_path short, h]
  rfl

/-- Every refusal but that nothing is there is a failure of the walk. -/
theorem walk_error_of_status {p : Place} (short : p.path.text.utf8ByteSize < longestPath)
    (h : t.status p = .error e) (other : e ≠ .missing) :
    t.walk linkBudget [] (p.reverse.map .into) = .error e := by
  rw [status, locateFrom_path short] at h
  cases walked : t.walk linkBudget [] (p.reverse.map .into) with
  | error e' =>
    rw [walked] at h
    cases h
    rfl
  | ok there =>
    rw [walked] at h
    simp only [Except.bind] at h
    split at h
    · cases h
    · exact absurd (Except.error.inj h).symm other

/-- A place that is not too far to ask about is in a folder that is not. -/
theorem status_outer_ne_tooLong {name : Part} {outer : Place}
    (h : t.status (name :: outer) ≠ .error .tooLong) : t.status outer ≠ .error .tooLong := by
  have short : (Place.path (name :: outer)).text.utf8ByteSize < longestPath := short_of_status h
  intro failed
  have toOuter := walk_error_of_status (short_outer short) failed (by decide)
  refine h (status_of_walk_error short ?_)
  rw [strides_cons]
  exact walk_append_error toOuter _

theorem status_suffix_ne_tooLong {outer p : Place} (inside : outer <:+ p)
    (h : t.status p ≠ .error .tooLong) : t.status outer ≠ .error .tooLong := by
  induction p with
  | nil =>
    rw [List.suffix_nil.mp inside]
    exact h
  | cons name rest ih =>
    rcases List.suffix_cons_iff.mp inside with rfl | further
    · exact h
    · exact ih further (status_outer_ne_tooLong h)

/-! ## Without links -/

/-- That neither a place nor a folder around it is a link. -/
def LinkFree (t : FileTree) (p : Place) : Prop :=
  ∀ outer, outer <:+ p → ∀ target, t.find? outer ≠ some (.link target)

theorem linkFree_root (t : FileTree) : t.LinkFree [] := by
  intro outer inside target
  rw [List.suffix_nil.mp inside, find?_root]
  simp

theorem linkFree_cons_iff {name : Part} {outer : Place} : t.LinkFree (name :: outer) ↔
    (∀ target, t.find? (name :: outer) ≠ some (.link target)) ∧ t.LinkFree outer := by
  constructor
  · intro free
    exact ⟨free _ (List.suffix_refl _),
      fun further inside => free further (inside.trans (List.suffix_cons name outer))⟩
  · rintro ⟨here, free⟩ further inside
    rcases List.suffix_cons_iff.mp inside with rfl | inside
    · exact here
    · exact free further inside

theorem LinkFree.suffix {outer p : Place} (free : t.LinkFree p) (inside : outer <:+ p) :
    t.LinkFree outer := fun further within => free further (within.trans inside)

/-- What holds a folder is no link, and neither are the folders around it. -/
theorem linkFree_of_folder {p : Place} {entries : List (String × Node)}
    (h : t.find? p = some (.folder entries)) : t.LinkFree p := by
  induction p generalizing entries with
  | nil => exact linkFree_root t
  | cons name outer ih =>
    refine linkFree_cons_iff.mpr ⟨by simp [h], ?_⟩
    rw [find?_cons] at h
    cases around : t.find? outer with
    | none => simp [around] at h
    | some n =>
      cases n with
      | file | link => simp [around, Node.child?] at h
      | folder inner => exact ih around

/-- A stride to a name that is no link leads there, unless it stops for another reason than
the number of links. -/
theorem footing_plain {name : Part} (noUp : name ≠ Part.up)
    (noLink : ∀ target, t.find? (name :: here) ≠ some (.link target)) :
    t.footing here (.into name) = .stands (name :: here) ∨
      ∃ e, e ≠ .tooManyLinks ∧ t.footing here (.into name) = .stops e := by
  rw [footing.eq_def]
  cases t.find? here with
  | none => exact .inr ⟨.notFolder, by decide, rfl⟩
  | some n =>
    cases n with
    | file | link => exact .inr ⟨.notFolder, by decide, rfl⟩
    | folder entries =>
      dsimp only
      rw [if_neg noUp]
      split
      · exact .inr ⟨.tooLong, by decide, rfl⟩
      · cases standing : t.find? (name :: here) with
        | none => exact .inr ⟨.missing, by decide, rfl⟩
        | some n =>
          cases n with
          | link target => exact absurd standing (noLink target)
          | file | folder => exact .inl rfl

/-- **A walk that meets no link does not fail for the number of links.** -/
theorem walk_ne_tooManyLinks {names : List Part} (plain : Part.up ∉ names)
    (free : t.LinkFree (names.reverse ++ here)) :
    t.walk budget here (names.map .into) ≠ .error .tooManyLinks := by
  induction names generalizing here with
  | nil =>
    rw [List.map_nil, walk_nil]
    simp
  | cons name rest ih =>
    obtain ⟨noUp, plain⟩ := not_or.mp (mt List.mem_cons.mpr plain)
    have free' : t.LinkFree (rest.reverse ++ name :: here) := by simpa using free
    have noLink := (linkFree_cons_iff.mp (free'.suffix (List.suffix_append _ _))).1
    rw [List.map_cons, walk_cons]
    rcases footing_plain (Ne.symm noUp) noLink with stands | ⟨e, other, stops⟩
    · rw [stands]
      exact ih plain free'
    · rw [stops]
      simpa using other

theorem status_ne_tooManyLinks {p : Place} (plain : Part.up ∉ p) (free : t.LinkFree p) :
    t.status p ≠ .error .tooManyLinks := by
  intro failed
  have short : p.path.text.utf8ByteSize < longestPath := short_of_status (by rw [failed]; simp)
  have walked : t.walk linkBudget [] (p.reverse.map .into) ≠ .error .tooManyLinks :=
    walk_ne_tooManyLinks (by simpa using plain) (by simpa using free)
  exact walked (walk_error_of_status short failed (by decide))

end OwnerBuild.FileTree
