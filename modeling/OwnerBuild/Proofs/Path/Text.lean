/-
# OwnerBuild.Proofs.Path.Text -- a path is read back from its text

The text of a path is its components with slashes between them, behind the slashes of the
anchor. No component holds a slash, so splitting the text at its slashes gives the components
back (`partsOf_text`), and the slashes in front are those of the anchor: a path is read back as
itself (`ofText_text`). So different paths have different texts (`text_injective`).

The text of a path is never shorter than that of the paths it extends (`size_text_le_child`),
which is what limits on the length of a path rest on.
-/

import OwnerBuild.Path

namespace OwnerBuild

/-! ## Stretches between slashes -/

theorem pieces_slash (s : List Char) : pieces ('/' :: s) = [] :: pieces s := rfl

/-- Up to the first slash there is one stretch. -/
theorem pieces_append_slash {s : List Char} (h : '/' ∉ s) (rest : List Char) :
    pieces (s ++ '/' :: rest) = s :: pieces rest := by
  induction s with
  | nil => rfl
  | cons c s ih =>
    obtain ⟨other, inner⟩ := not_or.mp (mt List.mem_cons.mpr h)
    have plain : (c == '/') = false := by simpa using Ne.symm other
    rw [List.cons_append, pieces, plain, if_neg Bool.false_ne_true, ih inner]
    rfl

/-- A text without slashes is one stretch. -/
theorem pieces_eq_singleton {s : List Char} (h : '/' ∉ s) : pieces s = [s] := by
  induction s with
  | nil => rfl
  | cons c s ih =>
    obtain ⟨other, inner⟩ := not_or.mp (mt List.mem_cons.mpr h)
    have plain : (c == '/') = false := by simpa using Ne.symm other
    rw [pieces, plain, if_neg Bool.false_ne_true, ih inner]
    rfl

namespace Part

theorem slash_not_mem (name : Part) : '/' ∉ name.val.toList := name.property.2.2

theorem toList_ne_nil (name : Part) : name.val.toList ≠ [] := by
  simpa using name.property.1

@[simp] theorem ofPiece?_toList (name : Part) : ofPiece? name.val.toList = some name := by
  have isPart : IsPart (String.ofList name.val.toList) := by
    rw [String.ofList_toList]
    exact name.property
  rw [ofPiece?, dif_pos isPart]
  simp only [String.ofList_toList]

/-- The stretch between two slashes that touch is no component. -/
@[simp] theorem ofPiece?_nil : ofPiece? [] = none := by
  rw [ofPiece?, dif_neg (by decide)]

end Part

namespace Path

/-! ## Texts -/

theorem toList_joined_cons (first second : Part) (rest : List Part) :
    (joined (first :: second :: rest)).toList =
      first.val.toList ++ '/' :: (joined (second :: rest)).toList := by
  simp [joined, String.toList_intercalate]

theorem joined_singleton (name : Part) : joined [name] = name.val := by
  simp [joined]

/-- The stretches between the slashes of a joined text are the components. -/
theorem pieces_joined {parts : List Part} (some : parts ≠ []) :
    pieces (joined parts).toList = parts.map (·.val.toList) := by
  induction parts with
  | nil => exact absurd rfl some
  | cons first rest ih =>
    cases rest with
    | nil => rw [joined_singleton, pieces_eq_singleton first.slash_not_mem, List.map_singleton]
    | cons second rest =>
      rw [toList_joined_cons, pieces_append_slash first.slash_not_mem, ih (List.cons_ne_nil _ _)]
      rfl

/-- The components of a joined text are the ones that were joined. -/
theorem partsOf_joined (parts : List Part) : partsOf (joined parts).toList = parts := by
  cases parts with
  | nil => decide
  | cons first rest =>
    rw [partsOf, pieces_joined (List.cons_ne_nil _ _), List.filterMap_map]
    have readBack : Part.ofPiece? ∘ (fun name : Part => name.val.toList) = Option.some :=
      funext Part.ofPiece?_toList
    rw [readBack, List.filterMap_some]

/-- A joined text does not begin with a slash. -/
theorem takeWhile_joined (parts : List Part) :
    (joined parts).toList.takeWhile (· == '/') = [] := by
  have begins : ∀ (name : Part) (rest : List Char),
      (name.val.toList ++ rest).takeWhile (· == '/') = [] := by
    intro name rest
    cases letters : name.val.toList with
    | nil => exact absurd letters name.toList_ne_nil
    | cons c _ =>
      have other : c ≠ '/' := by
        rintro rfl
        exact name.slash_not_mem (by simp [letters])
      simp [other]
  match parts with
  | [] => simp [joined, String.intercalate]
  | [name] =>
    rw [joined_singleton]
    simpa using begins name []
  | first :: second :: rest =>
    rw [toList_joined_cons]
    exact begins first _

theorem partsOf_slash (s : List Char) : partsOf ('/' :: s) = partsOf s := by
  rw [partsOf, pieces_slash, List.filterMap_cons_none Part.ofPiece?_nil]
  rfl

/-- The components in the text of a path are its components. -/
theorem partsOf_text (p : Path) : partsOf p.text.toList = p.parts := by
  unfold text
  split
  · next nothing => rw [nothing.2]; decide
  · rw [String.toList_append]
    match p.anchor with
    | .relative => exact partsOf_joined p.parts
    | .root => exact (partsOf_slash _).trans (partsOf_joined p.parts)
    | .doubleRoot =>
      exact (partsOf_slash _).trans ((partsOf_slash _).trans (partsOf_joined p.parts))

/-- The slashes in front of the text of a path are those of its anchor. -/
theorem ofText_anchor_text (p : Path) : Anchor.ofText p.text.toList = p.anchor := by
  unfold text
  split
  · next nothing => rw [nothing.1]; rfl
  · have slashes := takeWhile_joined p.parts
    rw [String.toList_append]
    cases p.anchor with
    | relative | root | doubleRoot => simp [Anchor.ofText, Anchor.text, slashes]

/-- **A path is read back from its text.** -/
@[simp] theorem ofText_text (p : Path) : ofText p.text = p := by
  rw [ofText, ofText_anchor_text, partsOf_text]

/-- **Different paths have different texts.** -/
theorem text_injective {p q : Path} (h : p.text = q.text) : p = q := by
  rw [← ofText_text p, h, ofText_text]

theorem text_ne_empty (p : Path) : p.text ≠ "" := by
  intro empty
  have same := ofText_text p
  rw [empty] at same
  -- the path without components is written as a dot
  obtain rfl : (⟨.relative, []⟩ : Path) = p := same
  revert empty
  decide

/-! ## Lengths -/

theorem joined_isPrefix (parts : List Part) (name : Part) :
    (joined parts).toList <+: (joined (parts ++ [name])).toList := by
  induction parts with
  | nil => simp [joined, String.intercalate]
  | cons first rest ih =>
    cases rest with
    | nil =>
      rw [List.singleton_append, toList_joined_cons, joined_singleton]
      exact List.prefix_append _ _
    | cons second rest =>
      rw [List.cons_append, List.cons_append, toList_joined_cons, toList_joined_cons]
      exact (List.prefix_append_right_inj _).mpr (List.cons_prefix_cons.mpr ⟨rfl, ih⟩)

theorem utf8ByteSize_mono {s t : String} (h : s.toList <+: t.toList) :
    s.utf8ByteSize ≤ t.utf8ByteSize := by
  obtain ⟨rest, split⟩ := h
  have : t = s ++ String.ofList rest := by
    rw [← String.toList_inj, String.toList_append, String.toList_ofList, split]
  rw [this, String.utf8ByteSize_append]
  exact Nat.le_add_right _ _

/-- A further component does not make the text of a path shorter. -/
theorem size_text_le_child (p : Path) (name : Part) :
    p.text.utf8ByteSize ≤ (p.child name).text.utf8ByteSize := by
  have longer : (p.child name).text = p.anchor.text ++ joined (p.parts ++ [name]) := by
    rw [text, child, if_neg (by simp)]
  rw [longer]
  by_cases nothing : p.anchor = .relative ∧ p.parts = []
  · -- the dot that stands for no component is no longer than a component
    have dot : p.text = "." := if_pos nothing
    rw [dot, nothing.1, nothing.2, List.nil_append, joined_singleton]
    have visible : name.val.utf8ByteSize ≠ 0 := by
      simpa using name.property.1
    have one : ".".utf8ByteSize = 1 := rfl
    rw [String.utf8ByteSize_append, one]
    omega
  · have shorter : p.text = p.anchor.text ++ joined p.parts := if_neg nothing
    rw [shorter, String.utf8ByteSize_append, String.utf8ByteSize_append]
    exact Nat.add_le_add_left (utf8ByteSize_mono (joined_isPrefix p.parts name)) _

end Path

end OwnerBuild
