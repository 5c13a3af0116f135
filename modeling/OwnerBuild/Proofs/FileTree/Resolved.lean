/-
# OwnerBuild.Proofs.FileTree.Resolved -- what resolving leaves

Resolving takes a name over only after asking whether a link stands there, and replaces a link
by what its target resolves to. So by induction over the names, and below that over the links
within links, it keeps whatever single names keep (`follow_keeps`), and every path that it reaches
is one on which no link was seen (`follow_clear`). What is not asked is a name at the end of a path
that is too long, and what a loop leaves is joined on unasked: but for these two, no link stands at
the resolved path nor around it (`linkFree_of_settled`).

In the other direction, a path on which no link stands resolves to itself (`resolve_path`): the
names are taken over one by one, and the walk that confirms the path follows no link. The two
together say that resolving is finished when it is done, also for every folder around the
resolved path.
-/

import OwnerBuild.Proofs.FileTree.Directory

namespace OwnerBuild

namespace Path

variable {p : Path} {name : Part}

/-! ## Places that paths spell -/

@[simp] theorem above_child_up (p : Path) : (p.child .up).above = (p.child .up).child .up := by
  simp [above, child]

/-- Out of a folder that was entered. -/
theorem above_child (entered : name ≠ Part.up) : (p.child name).above = p := by
  simp [above, child, entered]

theorem placeFrom_child_up (here : Place) (p : Path) :
    (p.child .up).placeFrom here = (p.placeFrom here).tail := by
  simp only [placeFrom, child, startFrom, List.foldl_append, List.foldl_cons, List.foldl_nil,
    if_true]
  rfl

theorem placeFrom_child (entered : name ≠ Part.up) (here : Place) :
    (p.child name).placeFrom here = name :: p.placeFrom here := by
  simp only [placeFrom, child, startFrom, List.foldl_append, List.foldl_cons, List.foldl_nil,
    if_neg entered]
  rfl

/-- What holds of a folder's names and of those that a path enters holds of the place that the path
spells from the folder. -/
theorem forall_mem_placeFrom {P : Part → Prop} {here : Place} (start : ∀ name ∈ here, P name)
    (entered : ∀ name ∈ p.parts, name ≠ Part.up → P name) :
    ∀ name ∈ p.placeFrom here, P name := by
  have start : ∀ name ∈ p.startFrom here, P name := by
    unfold startFrom
    split
    · exact start
    · exact List.forall_mem_nil P
  unfold placeFrom
  generalize p.startFrom here = place at start
  generalize p.parts = parts at entered
  induction parts generalizing place with
  | nil => exact start
  | cons name rest ih =>
    obtain ⟨first, entered⟩ := List.forall_mem_cons.mp entered
    rw [List.foldl_cons]
    split
    · exact ih _ (fun other inside => start other (List.mem_of_mem_tail inside)) entered
    · next into => exact ih _ (List.forall_mem_cons.mpr ⟨first into, start⟩) entered

/-- No `..` is left in the place that a path spells. -/
theorem up_not_mem_placeFrom {here : Place} (plain : Part.up ∉ here) (p : Path) :
    Part.up ∉ p.placeFrom here := by
  intro member
  refine forall_mem_placeFrom ?_ (fun _ _ entered => entered) Part.up member rfl
  rintro _ inside rfl
  exact plain inside

/-- A place is spelled by its path. -/
theorem placeFrom_path {place : Place} (plain : Part.up ∉ place) (here : Place) :
    place.path.placeFrom here = place := by
  induction place with
  | nil => rfl
  | cons name outer ih =>
    obtain ⟨entered, plain⟩ := not_or.mp (mt List.mem_cons.mpr plain)
    rw [FileTree.path_cons, placeFrom_child (Ne.symm entered), ih plain]

theorem absolute_path {place : Place} (plain : Part.up ∉ place) (here : Place) :
    place.path.absolute here = place.path := by
  rw [absolute, placeFrom_path plain]
  rfl

end Path

namespace Trail

/-! ## Paths on which no link was seen -/

variable {node? : Path → Option Node} {P : Path → Prop} {p : Path} {met : LinksMet}

/-- A path on which no link was seen: from the working directory or from the root, out of the
folders around the working directory or into a name at which no link stands. -/
inductive Clear (node? : Path → Option Node) : Path → Prop where
  | directory : Clear node? ⟨.relative, []⟩
  | root : Clear node? ⟨.root, []⟩
  | out {p : Path} : Clear node? p → p.anchor = .relative → (∀ name ∈ p.parts, name = Part.up) →
      Clear node? (p.child .up)
  | into {p : Path} {name : Part} : Clear node? p → name ≠ Part.up →
      (∀ target, node? (p.child name) ≠ some (.link target)) → Clear node? (p.child name)

theorem Clear.above (clear : Clear node? p) : Clear node? p.above := by
  cases clear with
  | directory => exact .out .directory rfl (by simp)
  | root => exact .root
  | out inner relative ups =>
    rw [Path.above_child_up]
    exact .out (.out inner relative ups) relative (by
      intro name member
      rcases List.mem_append.mp member with inner | last
      · exact ups name inner
      · exact List.mem_singleton.mp last)
  | into inner entered _ =>
    rw [Path.above_child entered]
    exact inner

/-! ## Following names and links -/

/-- That the links that have been resolved lead to paths with a property. -/
def MetAll (P : Path → Prop) (met : LinksMet) : Prop :=
  ∀ link there, met.lookup link = some (some there) → P there

theorem metAll_nil : MetAll P [] := by
  intro link there found
  cases found

theorem MetAll.cons {link : Path} {there? : Option Path}
    (first : ∀ there, there? = some there → P there) (others : MetAll P met) :
    MetAll P ((link, there?) :: met) := by
  intro link' there found
  rw [List.lookup_cons] at found
  split at found
  · exact first there (Option.some.inj found)
  · exact others link' there found

/-- That a trail, if it settles, settles at a path with a property. -/
def SettlesIn (P : Path → Prop) (trail : Trail) : Prop :=
  ∀ reached met, trail = .settled reached met → P reached ∧ MetAll P met

/-- A property of paths that following keeps: it holds at the root, of what is around a path, and
of a name that is taken over. -/
structure Kept (node? : Path → Option Node) (P : Path → Prop) : Prop where
  root : P ⟨.root, []⟩
  above : ∀ {here}, P here → P here.above
  into : ∀ {here name}, P here → name ≠ Part.up → hasNul name = false →
    (∀ target, node? (here.child name) ≠ some (.link target)) → P (here.child name)

/-- Following names keeps what following a link keeps. -/
theorem followWith_keeps (kept : Kept node? P) {enter : LinksMet → Path → String → Trail}
    (links : ∀ met here target, MetAll P met → P here → SettlesIn P (enter met here target))
    {here : Path} (pieces : List (List Char)) (others : MetAll P met) (start : P here) :
    SettlesIn P (followWith node? enter met here pieces) := by
  induction pieces generalizing met here with
  | nil =>
    rintro _ _ ⟨⟩
    exact ⟨start, others⟩
  | cons piece rest ih =>
    rw [followWith.eq_def]
    dsimp only
    cases Part.ofPiece? piece with
    | none => exact ih others start
    | some name =>
      dsimp only
      split
      · exact ih others (kept.above start)
      · next entered =>
        split
        · rintro _ _ ⟨⟩
        · next noNul =>
          split
          · next target standing =>
            split
            · next there known => exact ih others (others _ there known)
            · rintro _ _ ⟨⟩
            · have inner := links ((here.child name, none) :: met) here target
                (others.cons (by simp)) start
              split
              · next there met' settled =>
                obtain ⟨start', others'⟩ := inner there met' settled
                refine ih (others'.cons ?_) start'
                rintro _ ⟨⟩
                exact start'
              · rintro _ _ ⟨⟩
              · rintro _ _ ⟨⟩
          · next noLink =>
            exact ih others (kept.into start entered (by simpa using noNul) noLink)

/-- **Following a text leads to where what is kept holds**, if it leads anywhere. -/
theorem follow_keeps (kept : Kept node? P) (depth : Nat) (text : String) {here : Path}
    (others : MetAll P met) (start : P here) : SettlesIn P (follow node? depth met here text) := by
  induction depth generalizing met here text with
  | zero => rintro _ _ ⟨⟩
  | succ depth ih =>
    refine followWith_keeps kept (fun _ _ target others start => ih target others start) _ others ?_
    split
    · exact start
    · exact kept.root

/-- That the links that have been resolved lead to where no link was seen. -/
def MetClear (node? : Path → Option Node) (met : LinksMet) : Prop :=
  ∀ link there, met.lookup link = some (some there) → Clear node? there

theorem metClear_nil : MetClear node? [] := metAll_nil

/-- That a trail, if it settles, settles where no link was seen. -/
def SettlesClear (node? : Path → Option Node) (trail : Trail) : Prop :=
  ∀ reached met, trail = .settled reached met → Clear node? reached ∧ MetClear node? met

theorem kept_clear (node? : Path → Option Node) : Kept node? (Clear node?) where
  root := .root
  above := Clear.above
  into := fun clear entered _ noLink => .into clear entered noLink

/-- **Following a text leads to a path on which no link was seen**, if it leads to one. -/
theorem follow_clear (depth : Nat) (text : String) {here : Path} (others : MetClear node? met)
    (clear : Clear node? here) : SettlesClear node? (follow node? depth met here text) :=
  follow_keeps (kept_clear node?) depth text others clear

/-- A path from the root on which no link was seen holds no `..`. -/
theorem Clear.path_placeFrom (clear : Clear node? p) (anchored : p.anchor = .root) (here : Place) :
    (p.placeFrom here).path = p := by
  induction clear with
  | directory => cases anchored
  | root => rfl
  | out _ relative _ _ => cases relative.symm.trans anchored
  | into inner entered _ ih => rw [Path.placeFrom_child entered, FileTree.path_cons, ih anchored]

theorem Clear.anchor_ne (clear : Clear node? p) : p.anchor ≠ .doubleRoot := by
  induction clear with
  | directory | root => decide
  | out _ _ _ ih | into _ _ _ ih => exact ih

/-- No link was seen around a path from the root either. -/
theorem Clear.around (clear : Clear node? p) (anchored : p.anchor = .root) {here outer : Place}
    (inside : outer <:+ p.placeFrom here) : Clear node? outer.path := by
  induction clear with
  | directory => cases anchored
  | root =>
    obtain rfl : outer = [] := List.suffix_nil.mp inside
    exact .root
  | out _ relative _ _ => cases relative.symm.trans anchored
  | into inner entered noLink ih =>
    rw [Path.placeFrom_child entered] at inside
    rcases List.suffix_cons_iff.mp inside with rfl | further
    · rw [FileTree.path_cons, inner.path_placeFrom anchored]
      exact .into inner entered noLink
    · exact ih anchored further

/-- Names that are no links are followed to where they say. -/
theorem followWith_plain {enter : LinksMet → Path → String → Trail} {pieces : List (List Char)}
    {names : List Part} {here : Place} (spelled : pieces.filterMap Part.ofPiece? = names)
    (plain : Part.up ∉ names) (noNul : ∀ name ∈ names, hasNul name = false)
    (noLink : ∀ outer, outer <:+ names.reverse ++ here → ∀ target,
      node? (Place.path outer) ≠ some (.link target)) :
    followWith node? enter met here.path pieces =
      .settled (Place.path (names.reverse ++ here)) met := by
  induction pieces generalizing names here with
  | nil =>
    subst spelled
    rfl
  | cons piece rest ih =>
    rw [followWith.eq_def]
    dsimp only
    cases part : Part.ofPiece? piece with
    | none =>
      rw [List.filterMap_cons_none part] at spelled
      exact ih spelled plain noNul noLink
    | some name =>
      rw [List.filterMap_cons_some part] at spelled
      subst spelled
      obtain ⟨entered, plain⟩ := not_or.mp (mt List.mem_cons.mpr plain)
      have split : ((name :: rest.filterMap Part.ofPiece?).reverse ++ here) =
          (rest.filterMap Part.ofPiece?).reverse ++ name :: here := by simp
      rw [split] at noLink ⊢
      have standing := noLink (name :: here) (List.suffix_append _ _)
      have further := ih rfl plain (fun name' member => noNul name' (.tail _ member)) noLink
      rw [FileTree.path_cons] at standing further
      dsimp only
      rw [if_neg (Ne.symm entered), noNul name (.head _), if_neg Bool.false_ne_true]
      split
      · next target found => exact absurd found (standing target)
      · exact further

end Trail

namespace View

variable {v : View} {p resolved reached : Path} {met : LinksMet} {place : Place}

/-! ## Resolved paths -/

theorem node?_eq (present : p.anchor = .relative → v.lost = 0) :
    v.node? p = v.files.spelledNode? v.directory p := by
  unfold node?
  by_cases relative : p.anchor = .relative
  · rw [if_pos relative, present relative]
    rfl
  · rw [if_neg relative]
    rfl

/-- What a resolved path rests on. -/
theorem resolve_eq_ok (h : v.resolve p = .ok resolved) :
    ∃ spelled, (v.trail p).reached = .ok spelled ∧ (spelled.anchor = .relative → v.lost = 0) ∧
      resolved = spelled.absolute v.directory ∧ resolved.anyNul = false := by
  unfold resolve at h
  split at h
  · cases h
  · next spelled reached =>
    split at h
    · cases h
    · next present =>
      unfold confirm at h
      split at h
      · cases h
      · next noNul =>
        split at h
        · cases h
        · obtain rfl := Except.ok.inj h
          refine ⟨spelled, reached, fun relative => ?_, rfl, by simpa using noNul⟩
          exact Nat.eq_zero_of_not_pos fun gone => present ⟨relative, gone⟩

/-- Where no link was seen, none stands. -/
theorem linkFree_of_clear (standing : v.Standing) (clear : Trail.Clear v.node? p)
    (present : p.anchor = .relative → v.lost = 0)
    (short : p.text.utf8ByteSize < FileTree.longestPath) :
    v.files.LinkFree (p.placeFrom v.directory) := by
  induction clear with
  | directory =>
    obtain ⟨entries, folder⟩ := standing.folder (present rfl)
    exact FileTree.linkFree_of_folder folder
  | root => exact FileTree.linkFree_root v.files
  | @out q inner _ _ ih =>
    rw [Path.placeFrom_child_up]
    have short : q.text.utf8ByteSize < FileTree.longestPath :=
      Nat.lt_of_le_of_lt (q.size_text_le_child .up) short
    exact (ih present short).suffix (List.tail_suffix _)
  | @into q name inner entered noLink ih =>
    have shorter : q.text.utf8ByteSize < FileTree.longestPath :=
      Nat.lt_of_le_of_lt (q.size_text_le_child name) short
    rw [node?_eq present, FileTree.spelledNode?, if_neg (Nat.not_le.mpr short)] at noLink
    rw [Path.placeFrom_child entered] at noLink ⊢
    exact FileTree.linkFree_cons_iff.mpr ⟨noLink, ih present shorter⟩

/-- Around a path on which no link was seen none stands, as far as it can be asked about. -/
theorem linkFree_around_of_clear {outer : Place} (standing : v.Standing)
    (clear : Trail.Clear v.node? p) (present : p.anchor = .relative → v.lost = 0)
    (asked : p.anchor = .relative → p.text.utf8ByteSize < FileTree.longestPath)
    (inside : outer <:+ p.placeFrom v.directory)
    (short : outer.path.text.utf8ByteSize < FileTree.longestPath) : v.files.LinkFree outer := by
  cases anchor : p.anchor with
  | relative => exact (linkFree_of_clear standing clear present (asked anchor)).suffix inside
  | root =>
    have plain : Part.up ∉ outer := fun member =>
      Path.up_not_mem_placeFrom standing.plain p (inside.subset member)
    have free := linkFree_of_clear standing (clear.around anchor inside)
      (fun relative => by cases relative) short
    rwa [Path.placeFrom_path plain] at free
  | doubleRoot => exact absurd anchor clear.anchor_ne

/-- What a path resolves to if its trail settles: the place that is spelled where no link was seen,
behind a single slash. -/
theorem resolve_eq_ok_of_settled (settled : v.trail p = .settled reached met)
    (h : v.resolve p = .ok resolved) : Trail.Clear v.node? reached ∧
      (reached.anchor = .relative → v.lost = 0) ∧ resolved.anchor = .root ∧
      resolved.place = reached.placeFrom v.directory := by
  have clear : Trail.Clear v.node? reached :=
    (Trail.follow_clear _ _ Trail.metClear_nil .directory reached met settled).1
  obtain ⟨spelled, isSpelled, present, rfl, _⟩ := resolve_eq_ok h
  rw [settled] at isSpelled
  obtain rfl : reached = spelled := Except.ok.inj isSpelled
  exact ⟨clear, present, if_neg clear.anchor_ne, Path.place_absolute _ _⟩

/-- Where resolving settles no link is left, as far as it can be asked about. -/
theorem linkFree_around_of_settled {outer : Place} (standing : v.Standing)
    (settled : v.trail p = .settled reached met)
    (asked : reached.anchor = .relative → reached.text.utf8ByteSize < FileTree.longestPath)
    (h : v.resolve p = .ok resolved) (inside : outer <:+ resolved.place)
    (short : outer.path.text.utf8ByteSize < FileTree.longestPath) : v.files.LinkFree outer := by
  obtain ⟨clear, present, _, place⟩ := resolve_eq_ok_of_settled settled h
  rw [place] at inside
  exact linkFree_around_of_clear standing clear present asked inside short

/-- **Resolving leaves no link**, unless it ends in a loop, or comes to a path from the working
directory that is too long to be asked about. -/
theorem linkFree_of_settled (standing : v.Standing) (settled : v.trail p = .settled reached met)
    (short : reached.anchor = .relative → reached.text.utf8ByteSize < FileTree.longestPath)
    (h : v.resolve p = .ok resolved) (near : v.files.status resolved.place ≠ .error .tooLong) :
    resolved.anchor = .root ∧ v.files.LinkFree resolved.place :=
  ⟨(resolve_eq_ok_of_settled settled h).2.2.1, linkFree_around_of_settled standing settled short h
    (List.suffix_refl _) (FileTree.short_of_status near)⟩

/-- A path without links is followed to its end. -/
theorem trail_path (plain : Part.up ∉ place) (noNul : ∀ name ∈ place, hasNul name = false)
    (free : v.files.LinkFree place) : v.trail place.path = .settled place.path [] := by
  have noLink : ∀ outer, outer <:+ place → ∀ target,
      v.node? (Place.path outer) ≠ some (.link target) := by
    intro outer inside target
    rw [node?_eq (fun relative => by cases relative), FileTree.spelledNode?]
    split
    · simp
    · rw [Path.placeFrom_path (fun member => plain (inside.subset member))]
      exact free outer inside target
  have followed : Trail.followWith v.node? (Trail.follow v.node? v.linkDepth) []
      (Place.path []) (pieces place.path.text.toList) =
        .settled (Place.path (place.reverse.reverse ++ [])) [] :=
    Trail.followWith_plain (Path.partsOf_text place.path) (by simpa [Place.path] using plain)
      (by simpa [Place.path] using noNul) (by simpa [Place.path] using noLink)
  rw [List.append_nil, List.reverse_reverse] at followed
  show Trail.followWith _ _ _ (if (Path.ofText place.path.text).anchor = .relative then _ else _) _
    = _
  rw [Path.ofText_text, if_neg (fun relative => by cases relative)]
  exact followed

theorem anyNul_path : place.path.anyNul = false ↔ ∀ name ∈ place, hasNul name = false := by
  simp [Path.anyNul, Place.path]

/-- **A path without links resolves to itself.** -/
theorem resolve_path (plain : Part.up ∉ place) (noNul : ∀ name ∈ place, hasNul name = false)
    (free : v.files.LinkFree place) : v.resolve place.path = .ok place.path := by
  rw [resolve, trail_path plain noNul free]
  show (if place.path.anchor = .relative ∧ _ then _ else _) = _
  rw [if_neg (fun gone => by cases gone.1), Path.absolute_path plain, confirm,
    anyNul_path.mpr noNul, if_neg Bool.false_ne_true, place_path]
  split
  · next failed => exact absurd failed (FileTree.status_ne_tooManyLinks plain free)
  · rfl

/-- So does everything around a resolved path, there or not, where no link stands. -/
theorem resolve_within {inner : Place} (standing : v.Standing) (h : v.resolve p = .ok resolved)
    (inside : inner <:+ resolved.place) (free : v.files.LinkFree inner) :
    v.resolve inner.path = .ok inner.path := by
  obtain ⟨spelled, _, _, isSpelled, noNul⟩ := resolve_eq_ok h
  apply resolve_path _ _ free
  · rw [isSpelled, Path.place_absolute] at inside
    exact fun up => Path.up_not_mem_placeFrom standing.plain spelled (inside.subset up)
  · intro name member
    rw [Path.anyNul, List.any_eq_false] at noNul
    simpa using noNul name (List.mem_reverse.mp (inside.subset member))

end View

end OwnerBuild
