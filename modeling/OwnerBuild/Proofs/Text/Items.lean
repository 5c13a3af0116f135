/-
# OwnerBuild.Proofs.Text.Items -- what readers of lines take out of a text

A reader of lines takes items out of a text: texts that are not empty, hold no break and are
blank at neither end. Items are taken from the lines of the text, so they stand in it one behind
the other (`InOrder`), and taking only some of the lines, or trimming them, leaves it at that.

A text can be read in two parts at every break, whichever of the eleven it is
(`flatMap_lines_break`). The one difficulty is the break of two characters: what stands behind
a carriage return is read as if it stood alone only by a reader that takes nothing from an empty
line, since a line feed there would otherwise end one.
-/

import OwnerBuild.Proofs.Text.Lines

namespace OwnerBuild.Text

variable {s rest : List Char} {items : List (List Char)}

/-! ## Items -/

/-- That a text is an item: it is not empty, blank at neither end, and on one line. -/
structure IsItem (s : List Char) : Prop where
  nonempty : s ≠ []
  first : ∀ c, s.head? = some c → isBlank c = false
  last : ∀ c, s.getLast? = some c → isBlank c = false
  unbroken : ∀ c ∈ s, isLineBreak c = false

/-- What trimming leaves of a line is an item, if it leaves anything. -/
theorem isItem_trim {line : List Char} (unbroken : ∀ c ∈ line, isLineBreak c = false)
    (visible : trim line ≠ []) : IsItem (trim line) where
  nonempty := visible
  first := by
    intro c first
    obtain ⟨rest, split⟩ := trim_prefix_trimStart line
    apply not_isBlank_of_head?_trimStart (s := line)
    rw [← split, List.head?_append, first]
    rfl
  last := fun _ last => not_isBlank_of_getLast?_trim last
  unbroken := fun c inside => unbroken c (mem_of_mem_trim inside)

/-- There is nothing to trim from an item. -/
theorem IsItem.trim_eq (h : IsItem s) : trim s = s := trim_eq_self h.first h.last

/-- An item is a line by itself. -/
theorem IsItem.lines_eq (h : IsItem s) : lines s = [s] := lines_of_unbroken h.unbroken h.nonempty

/-! ## Items in a text -/

/-- That some texts stand in a text one behind the other, without overlapping. -/
inductive InOrder : List (List Char) → List Char → Prop
  | nil (rest : List Char) : InOrder [] rest
  | cons (before item : List Char) {items : List (List Char)} {rest : List Char}
      (h : InOrder items rest) : InOrder (item :: items) (before ++ (item ++ rest))

/-- They do so behind anything. -/
theorem InOrder.behind (before : List Char) (h : InOrder items s) :
    InOrder items (before ++ s) := by
  cases h with
  | nil => exact .nil _
  | cons gap item h =>
    rw [← List.append_assoc]
    exact .cons (before ++ gap) item h

/-- Some of them do so, too. -/
theorem InOrder.of_sublist {some : List (List Char)} (h : InOrder items s)
    (sub : some.Sublist items) : InOrder some s := by
  induction h generalizing some with
  | nil =>
    rw [List.sublist_nil.mp sub]
    exact .nil _
  | @cons before item items rest h ih =>
    cases sub with
    | cons _ sub =>
      apply InOrder.behind
      exact (ih sub).behind item
    | cons_cons _ sub => exact .cons before item (ih sub)

/-- What trimming leaves of them does so, too. -/
theorem InOrder.map_trim (h : InOrder items s) : InOrder (items.map trim) s := by
  induction h with
  | nil => exact .nil _
  | @cons before item items rest h ih =>
    obtain ⟨front, back, split, -, -⟩ := exists_trim item
    have whole : before ++ (item ++ rest) = (before ++ front) ++ (trim item ++ (back ++ rest)) := by
      nth_rewrite 1 [split]
      simp only [List.append_assoc]
    rw [whole]
    exact .cons _ _ (ih.behind back)

/-- Lines stand in their text in order, and the first one begins it unless it follows a carriage
return. -/
theorem inOrder_linesFrom (b : Bool) (s : List Char) : InOrder (linesFrom b s) s ∧
    (b = false → ∀ line others, linesFrom b s = line :: others →
      ∃ rest, s = line ++ rest ∧ InOrder others rest) := by
  induction s generalizing b with
  | nil => exact ⟨.nil _, nofun⟩
  | cons c s ih =>
    rw [linesFrom]
    split
    · next feed =>
      -- the line feed belongs to the break before, so no line begins here
      refine ⟨(ih false).1.behind [c], fun fresh => ?_⟩
      rw [fresh] at feed
      cases feed
    split
    · have behind : InOrder (linesFrom (c == '\r') s) (c :: s) := (ih _).1.behind [c]
      refine ⟨.cons [] [] behind, fun _ line others split => ?_⟩
      obtain ⟨rfl, rfl⟩ := List.cons.inj split
      exact ⟨c :: s, rfl, behind⟩
    · cases read : linesFrom false s with
      | nil =>
        refine ⟨.cons [] [c] (.nil s), fun _ line others split => ?_⟩
        obtain ⟨rfl, rfl⟩ := List.cons.inj split
        exact ⟨s, rfl, .nil s⟩
      | cons line others =>
        obtain ⟨rest, rfl, behind⟩ := (ih false).2 rfl line others read
        refine ⟨.cons [] (c :: line) behind, fun _ line' others' split => ?_⟩
        obtain ⟨rfl, rfl⟩ := List.cons.inj split
        exact ⟨rest, rfl, behind⟩

/-- **The lines of a text stand in it in order.** -/
theorem inOrder_lines (s : List Char) : InOrder (lines s) s := (inOrder_linesFrom false s).1

/-! ## Reading at breaks -/

theorem linesFrom_append_break {line : List Char} {c : Char}
    (unbroken : ∀ d ∈ line, isLineBreak d = false) (isBreak : isLineBreak c = true) :
    linesFrom false (line ++ c :: rest) = line :: linesFrom (c == '\r') rest := by
  induction line with
  | nil =>
    show linesFrom false (c :: rest) = _
    rw [linesFrom, Bool.false_and, if_neg Bool.false_ne_true, if_pos isBreak]
  | cons d line ih =>
    obtain ⟨noBreak, others⟩ := List.forall_mem_cons.mp unbroken
    rw [List.cons_append, linesFrom_cons_of_not_break noBreak, ih others]
    rfl

variable {α : Type} {f : List Char → List α}

/-- Behind a carriage return a reader that takes nothing from an empty line reads as elsewhere. -/
theorem flatMap_linesFrom (empty : f [] = []) (b : Bool) (s : List Char) :
    (linesFrom b s).flatMap f = (lines s).flatMap f := by
  cases b with
  | false => rfl
  | true =>
    cases s with
    | nil => rfl
    | cons c s =>
      cases feed : c == '\n' with
      | false => simp only [lines, linesFrom, feed, Bool.and_false]
      | true =>
        obtain rfl : c = '\n' := by simpa using feed
        show (linesFrom false s).flatMap f = ([] :: linesFrom false s).flatMap f
        rw [List.flatMap_cons, empty, List.nil_append]

/-- **A text is read in two parts at every break.** -/
theorem flatMap_lines_break (empty : f [] = []) {line : List Char} {c : Char}
    (unbroken : ∀ d ∈ line, isLineBreak d = false) (isBreak : isLineBreak c = true)
    (rest : List Char) :
    (lines (line ++ c :: rest)).flatMap f = f line ++ (lines rest).flatMap f := by
  rw [lines, linesFrom_append_break unbroken isBreak, List.flatMap_cons, flatMap_linesFrom empty]

end OwnerBuild.Text
