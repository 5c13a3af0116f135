/-
# OwnerBuild.Proofs.FileTree.Unresolved -- paths that resolve to nothing

Resolving asks at each name whether a link stands there, and no answer but the character that no
system call takes makes it fail. Where that character occurs neither in the path nor in a link, a
trail that meets no loop is stuck only behind too many links within links (`follow_stuck`), and what
it reaches can be asked about (`kept_nulFree`).

So resolving fails exactly for one of three reasons (`resolve_eq_error_iff`), and none of them is
that something on the way is missing.
-/

import OwnerBuild.Proofs.FileTree.Resolved

namespace OwnerBuild

namespace Path

variable {p : Path} {name : Part}

/-! ## Paths that can be asked about -/

theorem anyNul_eq_false_iff : p.anyNul = false ↔ ∀ name ∈ p.parts, hasNul name = false := by
  simp [anyNul]

theorem anyNul_child (clean : p.anyNul = false) (noNul : hasNul name = false) :
    (p.child name).anyNul = false := by
  rw [anyNul_eq_false_iff] at clean ⊢
  intro other member
  rcases List.mem_append.mp member with inner | last
  · exact clean other inner
  · rwa [List.mem_singleton.mp last]

theorem anyNul_above (clean : p.anyNul = false) : p.above.anyNul = false := by
  have upwards : (p.child .up).anyNul = false := anyNul_child clean (by decide)
  unfold above
  split
  · split
    · exact upwards
    · exact clean
  · split
    · exact upwards
    · rw [anyNul_eq_false_iff] at clean ⊢
      intro other member
      exact clean other (List.dropLast_subset _ member)

theorem anyNul_absolute {here : Place} (start : ∀ name ∈ here, hasNul name = false)
    (clean : p.anyNul = false) : (p.absolute here).anyNul = false := by
  rw [anyNul_eq_false_iff] at clean ⊢
  intro name member
  refine forall_mem_placeFrom start ?_ name (List.mem_reverse.mp member)
  exact fun other inside _ => clean other inside

end Path

namespace Trail

variable {node? : Path → Option Node} {met : LinksMet} {e : LookupError}

/-- That a trail ends in no loop. -/
def NoLoop (trail : Trail) : Prop := ∀ spelled, trail ≠ .looped spelled

instance (trail : Trail) : Decidable trail.NoLoop :=
  match trail with
  | .settled _ _ => isTrue fun _ looped => by cases looped
  | .looped spelled => isFalse fun noLoop => noLoop spelled rfl
  | .stuck _ => isTrue fun _ looped => by cases looped

/-! ## What a trail is stuck behind -/

/-- A name is only taken over if it can be asked about. -/
theorem kept_nulFree (node? : Path → Option Node) : Kept node? fun p => p.anyNul = false where
  root := rfl
  above := Path.anyNul_above
  into := fun clean _ noNul _ => Path.anyNul_child clean noNul

/-- Following names is stuck behind nothing that following a link is not stuck behind. -/
theorem followWith_stuck {enter : LinksMet → Path → String → Trail}
    (targets : ∀ p target, node? p = some (.link target) → (Path.ofText target).anyNul = false)
    (links : ∀ met here target, (Path.ofText target).anyNul = false →
      enter met here target = .stuck e → e = .linksTooDeep)
    {here : Path} {pieces : List (List Char)}
    (names : ∀ name ∈ pieces.filterMap Part.ofPiece?, hasNul name = false)
    (stuck : followWith node? enter met here pieces = .stuck e) : e = .linksTooDeep := by
  induction pieces generalizing met here with
  | nil => cases stuck
  | cons piece rest ih =>
    rw [followWith.eq_def] at stuck
    dsimp only at stuck
    cases part : Part.ofPiece? piece with
    | none =>
      rw [part] at stuck
      rw [List.filterMap_cons_none part] at names
      exact ih names stuck
    | some name =>
      rw [part] at stuck
      rw [List.filterMap_cons_some part] at names
      obtain ⟨noNul, names⟩ := List.forall_mem_cons.mp names
      dsimp only at stuck
      rw [noNul, if_neg Bool.false_ne_true] at stuck
      split at stuck
      · exact ih names stuck
      · split at stuck
        · next target standing =>
          split at stuck
          · exact ih names stuck
          · cases stuck
          · split at stuck
            · exact ih names stuck
            · cases stuck
            · next e' inner =>
              obtain rfl : e' = e := Trail.stuck.inj stuck
              exact links _ _ _ (targets _ target standing) inner
        · exact ih names stuck

/-- **A trail is stuck only behind too many links within links.** -/
theorem follow_stuck (depth : Nat) {text : String} {here : Path}
    (targets : ∀ p target, node? p = some (.link target) → (Path.ofText target).anyNul = false)
    (clean : (Path.ofText text).anyNul = false)
    (stuck : follow node? depth met here text = .stuck e) : e = .linksTooDeep := by
  induction depth generalizing met here text with
  | zero => exact (Trail.stuck.inj stuck).symm
  | succ depth ih =>
    apply followWith_stuck targets _ (Path.anyNul_eq_false_iff.mp clean) stuck
    intro met here target clean stuck
    exact ih clean stuck

end Trail

/-! ## Links that can be asked about -/

/-- That the links of a node and of everything in it hold no character that no system call takes. -/
inductive Node.NulFree : Node → Prop where
  | file {content : String} {executable : Bool} : NulFree (.file content executable)
  | link {target : String} : (Path.ofText target).anyNul = false → NulFree (.link target)
  | folder {entries : List (String × Node)} : (∀ entry ∈ entries, NulFree entry.2) →
      NulFree (.folder entries)

theorem Node.NulFree.find? {t : FileTree} (root : NulFree (.folder t.entries)) {place : Place}
    {n : Node} (h : t.find? place = some n) : n.NulFree := by
  induction place generalizing n with
  | nil =>
    obtain rfl := Option.some.inj h
    exact root
  | cons name outer ih =>
    rw [FileTree.find?_cons] at h
    obtain ⟨around, standing, held⟩ := Option.bind_eq_some_iff.mp h
    cases ih standing with
    | folder inside =>
      obtain ⟨before, after, rfl, _⟩ := List.lookup_eq_some_iff.mp held
      exact inside (name.val, n) (List.mem_append_right _ List.mem_cons_self)
    | file | link => cases held

namespace View

variable {v : View} {p resolved : Path} {e : LookupError}

/-! ## Paths without a place -/

/-- That the working directory and the links of all files can be asked about: the character that no
system call takes occurs in none of them. -/
structure NulFree (v : View) : Prop where
  directory : ∀ name ∈ v.directory, hasNul name = false
  files : Node.NulFree (.folder v.files.entries)

theorem NulFree.of_node? (nulFree : v.NulFree) {target : String}
    (standing : v.node? p = some (.link target)) : (Path.ofText target).anyNul = false := by
  unfold node? at standing
  split at standing
  · unfold FileTree.spelledNode? at standing
    split at standing
    · cases standing
    · cases nulFree.files.find? standing with
      | link clean => exact clean
  · cases standing

/-- Why a path without loops has no place. -/
inductive Unresolved (v : View) (p : Path) : LookupError → Prop where
  /-- Links lead through too many further links. -/
  | tooDeep : v.trail p = .stuck .linksTooDeep → Unresolved v p .linksTooDeep
  /-- The path starts in the working directory, and that is gone. -/
  | gone {reached : Path} {met : LinksMet} : v.trail p = .settled reached met →
      reached.anchor = .relative → 0 < v.lost → Unresolved v p (.refused .missing)
  /-- The path from the working directory is too long for its links to be asked about, and they lead
  around in a loop. -/
  | unasked {reached : Path} {met : LinksMet} : v.trail p = .settled reached met →
      reached.anchor = .relative → v.lost = 0 →
      FileTree.longestPath ≤ reached.text.utf8ByteSize →
      v.files.status (reached.placeFrom v.directory) = .error .tooManyLinks →
      Unresolved v p .linkLoop

theorem confirm_eq_error_iff (clean : resolved.anyNul = false) : v.confirm resolved = .error e ↔
    e = .linkLoop ∧ v.files.status resolved.place = .error .tooManyLinks := by
  unfold confirm
  rw [clean, if_neg Bool.false_ne_true]
  split
  · next looped => simp [looped, eq_comm]
  · next other => simpa using fun _ => other

theorem resolve_of_settled {reached : Path} {met : LinksMet}
    (settled : v.trail p = .settled reached met) : v.resolve p =
      if reached.anchor = .relative ∧ v.lost > 0 then .error (.refused .missing)
      else v.confirm (reached.absolute v.directory) := by
  rw [resolve, settled]
  rfl

/-- What resolves without a loop has settled. -/
theorem settled_of_resolve (noLoop : (v.trail p).NoLoop) (h : v.resolve p = .ok resolved) :
    ∃ reached met, v.trail p = .settled reached met := by
  obtain ⟨spelled, reached, _⟩ := resolve_eq_ok h
  cases trail : v.trail p with
  | settled reached met => exact ⟨reached, met, rfl⟩
  | looped spelled => exact absurd trail (noLoop spelled)
  | stuck e =>
    rw [trail] at reached
    cases reached

/-- A loop of links that were not seen is only behind a path that is too long for them to be asked
about. -/
theorem long_of_unseen_loop {reached : Path} (standing : v.Standing)
    (clear : Trail.Clear v.node? reached) (present : reached.anchor = .relative → v.lost = 0)
    (looped : v.files.status (reached.placeFrom v.directory) = .error .tooManyLinks) :
    reached.anchor = .relative ∧ FileTree.longestPath ≤ reached.text.utf8ByteSize := by
  apply Classical.byContradiction
  intro other
  have short := FileTree.short_of_status (by rw [looped]; simp)
  have free := linkFree_around_of_clear standing clear present
    (fun relative => Nat.lt_of_not_le fun long => other ⟨relative, long⟩) (List.suffix_refl _) short
  have plain := Path.up_not_mem_placeFrom standing.plain reached
  exact FileTree.status_ne_tooManyLinks plain free looped

/-- A trail that is stuck leads to no place. -/
theorem resolve_eq_error_iff_of_stuck {e' : LookupError} (nulFree : v.NulFree)
    (clean : p.anyNul = false) (stuck : v.trail p = .stuck e') :
    v.resolve p = .error e ↔ v.Unresolved p e := by
  rw [← Path.ofText_text p] at clean
  obtain rfl := Trail.follow_stuck _ (fun _ _ => nulFree.of_node?) clean stuck
  have failed : v.resolve p = .error .linksTooDeep := by
    rw [resolve, stuck]
    rfl
  rw [failed]
  constructor
  · rintro ⟨⟩
    exact .tooDeep stuck
  · intro unresolved
    cases unresolved with
    | tooDeep => rfl
    | gone settled | unasked settled => cases stuck.symm.trans settled

/-- A trail that settles leads to no place if it started in a folder that is gone, or if the system
meets a loop of links that were not asked about. -/
theorem resolve_eq_error_iff_of_settled {reached : Path} {met : LinksMet} (standing : v.Standing)
    (nulFree : v.NulFree) (settled : v.trail p = .settled reached met) :
    v.resolve p = .error e ↔ v.Unresolved p e := by
  have clear : Trail.Clear v.node? reached :=
    (Trail.follow_clear _ _ Trail.metClear_nil .directory reached met settled).1
  have noNul : (reached.absolute v.directory).anyNul = false := by
    apply Path.anyNul_absolute nulFree.directory
    exact (Trail.follow_keeps (Trail.kept_nulFree _) _ _ Trail.metAll_nil rfl reached met settled).1
  rw [resolve_of_settled settled]
  constructor
  · intro failed
    split at failed
    · next gone =>
      obtain rfl := Except.error.inj failed
      exact .gone settled gone.1 gone.2
    · next remains =>
      have present : reached.anchor = .relative → v.lost = 0 := fun relative =>
        Nat.eq_zero_of_not_pos fun lost => remains ⟨relative, lost⟩
      obtain ⟨rfl, looped⟩ := (confirm_eq_error_iff noNul).mp failed
      rw [Path.place_absolute] at looped
      obtain ⟨relative, long⟩ := long_of_unseen_loop standing clear present looped
      exact .unasked settled relative (present relative) long looped
  · intro unresolved
    cases unresolved with
    | tooDeep stuck => cases settled.symm.trans stuck
    | gone settled' relative lost =>
      obtain ⟨rfl, rfl⟩ := Trail.settled.inj (settled.symm.trans settled')
      exact if_pos ⟨relative, lost⟩
    | unasked settled' relative present long looped =>
      obtain ⟨rfl, rfl⟩ := Trail.settled.inj (settled.symm.trans settled')
      rw [if_neg (fun gone => Nat.ne_of_gt gone.2 present), confirm_eq_error_iff noNul,
        Path.place_absolute]
      exact ⟨rfl, looped⟩

/-- **Resolving a path without loops fails exactly for one of three reasons.** -/
theorem resolve_eq_error_iff (standing : v.Standing) (nulFree : v.NulFree)
    (clean : p.anyNul = false) (noLoop : (v.trail p).NoLoop) :
    v.resolve p = .error e ↔ v.Unresolved p e := by
  cases trail : v.trail p with
  | settled reached met => exact resolve_eq_error_iff_of_settled standing nulFree trail
  | looped spelled => exact absurd trail (noLoop spelled)
  | stuck e' => exact resolve_eq_error_iff_of_stuck nulFree clean trail

end View

end OwnerBuild
