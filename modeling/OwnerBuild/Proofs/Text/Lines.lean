/-
# OwnerBuild.Proofs.Text.Lines -- trimming, and the lines of joined texts

Trimming cuts a text into blanks, the trimmed text and blanks again
(`exists_trim`); a text that begins and ends with something visible is left alone, and
trimming twice is trimming once.

Line reading is chunk by chunk at a line feed: what stands before it and what stands
behind it are read on their own (`lines_append_newline`), whatever break characters
either part ends or begins with. The line feed itself can at most close a line that
was empty (`lines_append_newline_end`), which matters to no reader of this project,
since empty lines are neither records nor labels. Lines hold no break, and a text
without breaks is its own single line. Of a text that ends too early only the last line
differs from those of the whole (`CutLines`).
-/

import Mathlib.Data.List.DropRight
import Mathlib.Data.List.TakeWhile
import OwnerBuild.Text.Lines

namespace OwnerBuild.Text

/-! ## Trimming -/

/-- A text is blanks, what trimming leaves, and blanks. -/
theorem exists_trim (s : List Char) :
    ∃ before after, s = before ++ (trim s ++ after) ∧ (∀ c ∈ before, isBlank c = true) ∧
      ∀ c ∈ after, isBlank c = true := by
  refine ⟨s.takeWhile isBlank, (((trimStart s).reverse).takeWhile isBlank).reverse, ?_, ?_, ?_⟩
  · have ends : trim s ++ (((trimStart s).reverse).takeWhile isBlank).reverse = trimStart s := by
      rw [trim, trimWhere, trimEndWhere, ← List.reverse_append, List.reverse_eq_iff]
      exact List.takeWhile_append_dropWhile
    rw [ends]
    exact List.takeWhile_append_dropWhile.symm
  · intro c h
    exact (List.all_eq_true.mp List.all_takeWhile) c h
  · intro c h
    exact (List.all_eq_true.mp List.all_takeWhile) c (List.mem_reverse.mp h)

theorem mem_of_mem_trim {s : List Char} {c : Char} (h : c ∈ trim s) : c ∈ s := by
  obtain ⟨before, after, split, -, -⟩ := exists_trim s
  rw [split]
  exact List.mem_append_right _ (List.mem_append_left _ h)

/-- Trimming leaves nothing exactly of blanks. -/
theorem trim_eq_nil_iff {s : List Char} : trim s = [] ↔ ∀ c ∈ s, isBlank c = true := by
  constructor
  · intro h c hc
    obtain ⟨before, after, split, blankBefore, blankAfter⟩ := exists_trim s
    rw [split, h, List.nil_append] at hc
    rcases List.mem_append.mp hc with hc | hc
    · exact blankBefore c hc
    · exact blankAfter c hc
  · intro h
    have start : trimStart s = [] := List.dropWhile_eq_nil_iff.mpr h
    rw [trim, trimWhere, show trimStartWhere isBlank s = [] from start]
    rfl

/-- A text that begins with something visible is not cut at its beginning. -/
theorem trimStart_eq_self {s : List Char} (first : ∀ c, s.head? = some c → isBlank c = false) :
    trimStart s = s := by
  cases s with
  | nil => rfl
  | cons c rest => exact List.dropWhile_cons_of_neg (by simp [first c rfl])

/-- A text with something visible at both ends is not cut at all. -/
theorem trim_eq_self {s : List Char} (first : ∀ c, s.head? = some c → isBlank c = false)
    (last : ∀ c, s.getLast? = some c → isBlank c = false) : trim s = s := by
  have start : trimStartWhere isBlank s = s := trimStart_eq_self first
  have stop : trimStart s.reverse = s.reverse :=
    trimStart_eq_self fun c h => last c (by rwa [List.head?_reverse] at h)
  rw [trim, trimWhere, start, trimEndWhere]
  rw [show s.reverse.dropWhile isBlank = s.reverse from stop, List.reverse_reverse]

theorem trim_eq_rdropWhile (s : List Char) : trim s = (trimStart s).rdropWhile isBlank := rfl

/-- Nothing blank stands first behind the blanks at the beginning. -/
theorem not_isBlank_of_head?_trimStart {s : List Char} {c : Char} (h : (trimStart s).head? = some c) :
    isBlank c = false := by
  have first := List.head?_dropWhile_not isBlank s
  rw [show (s.dropWhile isBlank).head? = some c from h] at first
  exact first

/-- What trimming leaves begins as what is left without the blanks at the beginning. -/
theorem trim_prefix_trimStart (s : List Char) : trim s <+: trimStart s :=
  List.rdropWhile_prefix isBlank (trimStart s)

/-- Trimming again takes nothing more. -/
theorem trim_trim (s : List Char) : trim (trim s) = trim s := by
  have start : trimStart (trim s) = trim s := by
    refine trimStart_eq_self fun c first => ?_
    obtain ⟨rest, split⟩ := trim_prefix_trimStart s
    refine not_isBlank_of_head?_trimStart (s := s) ?_
    rw [← split, List.head?_append, first]
    rfl
  rw [trim_eq_rdropWhile (trim s), start]
  exact List.rdropWhile_idempotent isBlank (trimStart s)

/-- What trimming leaves does not end in a blank. -/
theorem not_isBlank_of_getLast?_trim {s : List Char} {c : Char} (h : (trim s).getLast? = some c) :
    isBlank c = false := by
  have last := List.head?_dropWhile_not isBlank (trimStart s).reverse
  rw [trim_eq_rdropWhile, List.rdropWhile, List.getLast?_reverse] at h
  rw [h] at last
  exact last

/-- What follows something visible is not touched at the beginning. -/
theorem trimStart_append {s : List Char} (visible : trimStart s ≠ []) (rest : List Char) :
    trimStart (s ++ rest) = trimStart s ++ rest := by
  have notEmpty : (s.dropWhile isBlank).isEmpty = false := by
    rw [List.isEmpty_eq_false_iff]
    exact visible
  rw [trimStart, trimStartWhere, List.dropWhile_append, notEmpty]
  rfl

/-- **Trimming a text that goes on** leaves what trimming its beginning leaves, and perhaps
more behind it, unless the beginning is blank. -/
theorem trim_prefix_trim_append {s : List Char} (visible : trimStart s ≠ []) (rest : List Char) :
    trim s <+: trim (s ++ rest) := by
  rw [trim_eq_rdropWhile, trim_eq_rdropWhile, trimStart_append visible]
  -- either the rest is blank and goes with the blanks before it, or all before it stays
  rw [List.rdropWhile, List.rdropWhile, List.reverse_append, List.dropWhile_append]
  split
  · exact List.prefix_rfl
  · rw [List.reverse_append, List.reverse_reverse]
    exact (List.rdropWhile_prefix isBlank (trimStart s)).trans (List.prefix_append _ _)

/-! ## Lines -/

theorem extendFirst_append {c : Char} {ls ms : List (List Char)} (h : ls ≠ []) :
    extendFirst c (ls ++ ms) = extendFirst c ls ++ ms := by
  cases ls with
  | nil => exact absurd rfl h
  | cons line rest => rfl

theorem linesFrom_false_ne_nil {s : List Char} (h : s ≠ []) : linesFrom false s ≠ [] := by
  cases s with
  | nil => exact absurd rfl h
  | cons c rest =>
    rw [linesFrom, Bool.false_and, if_neg Bool.false_ne_true]
    split
    · exact List.cons_ne_nil _ _
    · cases linesFrom false rest <;> exact List.cons_ne_nil _ _

/-- Reading starts afresh behind a line feed. -/
theorem linesFrom_append_newline (b : Bool) (xs ys : List Char) :
    linesFrom b (xs ++ '\n' :: ys) = linesFrom b (xs ++ ['\n']) ++ linesFrom false ys := by
  induction xs generalizing b with
  | nil => cases b <;> rfl
  | cons c xs ih =>
    simp only [List.cons_append, linesFrom]
    split
    · exact ih false
    split
    · rw [ih, List.cons_append]
    · rw [ih, extendFirst_append (linesFrom_false_ne_nil (by simp))]

/-- A line feed at the end closes the last line, or adds one that is empty. -/
theorem linesFrom_append_newline_end (b : Bool) (xs : List Char) :
    linesFrom b (xs ++ ['\n']) = linesFrom b xs ∨
      linesFrom b (xs ++ ['\n']) = linesFrom b xs ++ [[]] := by
  induction xs generalizing b with
  | nil => cases b <;> simp [linesFrom, isLineBreak]
  | cons c xs ih =>
    simp only [List.cons_append, linesFrom]
    split
    · exact ih false
    split
    · rcases ih (c == '\r') with h | h
      · exact .inl (by rw [h])
      · exact .inr (by rw [h, List.cons_append])
    · rcases ih false with h | h
      · exact .inl (by rw [h])
      · cases read : linesFrom false xs with
        | nil => exact .inl (by rw [h, read]; rfl)
        | cons line rest => exact .inr (by rw [h, read]; rfl)

/-- **The lines of a text are those before a line feed in it and those behind.** -/
theorem lines_append_newline (xs ys : List Char) :
    lines (xs ++ '\n' :: ys) = lines (xs ++ ['\n']) ++ lines ys :=
  linesFrom_append_newline false xs ys

theorem lines_append_newline_end (xs : List Char) :
    lines (xs ++ ['\n']) = lines xs ∨ lines (xs ++ ['\n']) = lines xs ++ [[]] :=
  linesFrom_append_newline_end false xs

/-- A reader of lines that takes nothing from an empty line reads a text in two parts
at a line feed. -/
theorem flatMap_lines_append_newline {α : Type} {f : List Char → List α} (empty : f [] = [])
    (xs ys : List Char) :
    (lines (xs ++ '\n' :: ys)).flatMap f = (lines xs).flatMap f ++ (lines ys).flatMap f := by
  rw [lines_append_newline, List.flatMap_append]
  rcases lines_append_newline_end xs with h | h
  · rw [h]
  · rw [h, List.flatMap_append, List.flatMap_singleton, empty, List.append_nil]

/-- A text without breaks is one line, unless it is empty. -/
theorem lines_of_unbroken {s : List Char} (unbroken : ∀ c ∈ s, isLineBreak c = false)
    (h : s ≠ []) : lines s = [s] := by
  have read : ∀ s : List Char, (∀ c ∈ s, isLineBreak c = false) →
      ∀ c, isLineBreak c = false → linesFrom false (c :: s) = [c :: s] := by
    intro s
    induction s with
    | nil =>
      intro _ c hc
      rw [linesFrom_cons_of_not_break hc]
      rfl
    | cons d s ih =>
      intro hs c hc
      rw [linesFrom_cons_of_not_break hc,
        ih (fun e he => hs e (List.mem_cons_of_mem _ he)) d (hs d List.mem_cons_self)]
      rfl
  cases s with
  | nil => exact absurd rfl h
  | cons c s =>
    exact read s (fun d hd => unbroken d (List.mem_cons_of_mem _ hd)) c
      (unbroken c List.mem_cons_self)

/-- Lines hold no break. -/
theorem not_isLineBreak_of_mem_lines {s line : List Char} {c : Char} (h : line ∈ lines s)
    (hc : c ∈ line) : isLineBreak c = false := by
  have read : ∀ (s : List Char) (b : Bool), ∀ line ∈ linesFrom b s,
      ∀ c ∈ line, isLineBreak c = false := by
    intro s
    induction s with
    | nil => simp [linesFrom]
    | cons d s ih =>
      intro b line h
      rw [linesFrom] at h
      split at h
      · exact ih _ line h
      split at h
      · rcases List.mem_cons.mp h with rfl | h
        · simp
        · exact ih _ line h
      next notBreak =>
        intro c hc
        cases rest : linesFrom false s with
        | nil =>
          rw [rest] at h
          obtain rfl : line = [d] := by simpa [extendFirst] using h
          obtain rfl : c = d := by simpa using hc
          simpa using notBreak
        | cons first others =>
          rw [rest] at h
          rcases List.mem_cons.mp h with rfl | h
          · rcases List.mem_cons.mp hc with rfl | hc
            · simpa using notBreak
            · exact ih false first (rest ▸ List.mem_cons_self) c hc
          · exact ih false line (rest ▸ List.mem_cons_of_mem _ h) c hc
  exact read s false line h c hc

/-! ## Texts that end too early -/

/-- That some lines are those of a text that ends too early: they are the first lines of the
whole text, and perhaps the beginning of the one that follows. -/
inductive CutLines : List (List Char) → List (List Char) → Prop
  | nothing {ls : List (List Char)} : CutLines [] ls
  | within {cut line : List Char} {ls : List (List Char)} (h : cut <+: line) :
      CutLines [cut] (line :: ls)
  | whole {line : List Char} {cuts ls : List (List Char)} (h : CutLines cuts ls) :
      CutLines (line :: cuts) (line :: ls)

theorem CutLines.extendFirst {cuts ls : List (List Char)} (h : CutLines cuts ls) (c : Char) :
    CutLines (extendFirst c cuts) (extendFirst c ls) := by
  cases h with
  | nothing =>
    cases ls with
    | nil => exact .within List.prefix_rfl
    | cons line ls => exact .within (List.prefix_append [c] line)
  | within h => exact .within (List.cons_prefix_cons.mpr ⟨rfl, h⟩)
  | whole h => exact .whole h

theorem cutLines_linesFrom (b : Bool) (s rest : List Char) :
    CutLines (linesFrom b s) (linesFrom b (s ++ rest)) := by
  induction s generalizing b with
  | nil => exact .nothing
  | cons c s ih =>
    simp only [List.cons_append, linesFrom]
    split
    · exact ih false
    split
    · exact .whole (ih _)
    · exact (ih false).extendFirst c

/-- **Cutting a text cuts its last line** and leaves the lines before it as they are. -/
theorem cutLines_of_prefix {cut s : List Char} (h : cut <+: s) : CutLines (lines cut) (lines s) := by
  obtain ⟨rest, rfl⟩ := h
  exact cutLines_linesFrom false cut rest

end OwnerBuild.Text
