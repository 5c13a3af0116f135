/-
# OwnerBuild.Proofs.Query.Labels -- the labels in a listing

The labels of an output are what trimming leaves of its lines. Blanks in front of an output change
nothing (`labels_blank_append`), and a line is read by itself however it is ended
(`labels_line`). From these two equations alone a list of labels is read back from every text that
lists them (`labels_of_listing`): each on a line of its own, with lines ended in any of the eleven
ways and in different ways, blank lines anywhere, and the last line ended or not.
-/

import OwnerBuild.Proofs.Text.Items
import OwnerBuild.Query

namespace OwnerBuild

open Text (IsItem InOrder isBlank isLineBreak joinWith lines trim)

/-! ## Listings -/

namespace Text

/-- The ways to end a line: a break character, or a carriage return with a line feed. -/
def IsLineEnd (e : List Char) : Prop :=
  e = ['\r', '\n'] ∨ ∃ c, e = [c] ∧ isLineBreak c = true

/-- That a text lists some items: each is on a line of its own, and there may be blank lines in
front of them, between them and behind them. The last line need not be ended. -/
inductive Listing : List (List Char) → List Char → Prop
  | blank {s : List Char} (blank : ∀ c ∈ s, isBlank c = true) : Listing [] s
  | last {item : List Char} (isItem : IsItem item) : Listing [item] item
  | item {item e rest : List Char} {items : List (List Char)} (isItem : IsItem item)
      (ended : IsLineEnd e) (h : Listing items rest) : Listing (item :: items) (item ++ (e ++ rest))
  | blankLine {line e rest : List Char} {items : List (List Char)}
      (blank : ∀ c ∈ line, isBlank c = true) (ended : IsLineEnd e) (h : Listing items rest) :
      Listing items (line ++ (e ++ rest))

/-- Line ends are blank. -/
theorem IsLineEnd.isBlank {e : List Char} (h : IsLineEnd e) : ∀ c ∈ e, isBlank c = true := by
  obtain rfl | ⟨c, rfl, isBreak⟩ := h
  · have both : ['\r', '\n'].all Text.isBlank = true := by decide
    exact List.all_eq_true.mp both
  · intro d isEnd
    rw [List.mem_singleton.mp isEnd]
    exact isBlank_of_isLineBreak isBreak

/-- A line end begins with a break. -/
theorem IsLineEnd.exists_break {e : List Char} (h : IsLineEnd e) :
    ∃ c others, e = c :: others ∧ isLineBreak c = true ∧ ∀ d ∈ others, Text.isBlank d = true := by
  obtain rfl | ⟨c, rfl, isBreak⟩ := h
  · have feed : ['\n'].all Text.isBlank = true := by decide
    exact ⟨'\r', ['\n'], rfl, by decide, List.all_eq_true.mp feed⟩
  · exact ⟨c, [], rfl, isBreak, nofun⟩

/-- Items that are joined by line feeds are listed. -/
theorem listing_joinWith {items : List (List Char)} (each : ∀ item ∈ items, IsItem item) :
    Listing items (joinWith ['\n'] items) := by
  have feed : IsLineEnd ['\n'] := .inr ⟨'\n', rfl, by decide⟩
  induction items with
  | nil => exact .blank nofun
  | cons item items ih =>
    obtain ⟨isItem, others⟩ := List.forall_mem_cons.mp each
    cases items with
    | nil => exact .last isItem
    | cons next items =>
      rw [joinWith, List.append_assoc]
      exact .item isItem feed (ih others)

end Text

/-! ## Labels -/

namespace Query

/-- The label on a line, if there is one. -/
def labelOn (line : List Char) : List (List Char) := if trim line = [] then [] else [trim line]

/-- The labels of an output, as a reader of lines that takes nothing from a blank one. -/
theorem labels_eq_flatMap (output : List Char) :
    labels output = (lines output).flatMap labelOn := by
  rw [labels]
  induction lines output with
  | nil => rfl
  | cons line rest ih =>
    rw [List.map_cons, List.flatMap_cons, ← ih, labelOn]
    by_cases blank : trim line = []
    · simp [blank]
    · simp [blank]

theorem labelOn_nil : labelOn [] = [] := rfl

theorem labelOn_item {item : List Char} (h : IsItem item) : labelOn item = [item] := by
  rw [labelOn, h.trim_eq, if_neg h.nonempty]

theorem labelOn_cons_blank {c : Char} (blank : isBlank c = true) (line : List Char) :
    labelOn (c :: line) = labelOn line := by
  have same : trim (c :: line) = trim line := by
    have start : (c :: line).dropWhile isBlank = line.dropWhile isBlank :=
      List.dropWhile_cons_of_pos blank
    rw [trim, Text.trimWhere, Text.trimStartWhere, start]
    rfl
  rw [labelOn, labelOn, same]

/-- A blank in front of an output makes no difference. -/
theorem labels_cons_blank {c : Char} (blank : isBlank c = true) (output : List Char) :
    labels (c :: output) = labels output := by
  rw [labels_eq_flatMap, labels_eq_flatMap]
  cases isBreak : isLineBreak c with
  | true =>
    have nothing : ∀ d ∈ ([] : List Char), isLineBreak d = false := nofun
    exact Text.flatMap_lines_break labelOn_nil nothing isBreak output
  | false =>
    rw [lines, lines, Text.linesFrom_cons_of_not_break isBreak]
    cases Text.linesFrom false output with
    | nil =>
      show labelOn [c] ++ [] = []
      rw [labelOn_cons_blank blank, labelOn_nil, List.append_nil]
    | cons line others =>
      rw [Text.extendFirst, List.flatMap_cons, List.flatMap_cons, labelOn_cons_blank blank]

/-- **Blanks in front of an output make no difference**, whatever breaks are among them. -/
theorem labels_blank_append {s : List Char} (blank : ∀ c ∈ s, isBlank c = true)
    (output : List Char) : labels (s ++ output) = labels output := by
  induction s with
  | nil => rfl
  | cons c s ih =>
    obtain ⟨first, others⟩ := List.forall_mem_cons.mp blank
    rw [List.cons_append, labels_cons_blank first, ih others]

/-- **A line is read by itself**, however it is ended. -/
theorem labels_line {line e : List Char} (unbroken : ∀ c ∈ line, isLineBreak c = false)
    (ended : Text.IsLineEnd e) (output : List Char) :
    labels (line ++ (e ++ output)) = labelOn line ++ labels output := by
  obtain ⟨c, others, rfl, isBreak, blank⟩ := ended.exists_break
  have behind : labels (others ++ output) = labels output := labels_blank_append blank output
  rw [List.cons_append, labels_eq_flatMap, Text.flatMap_lines_break labelOn_nil unbroken isBreak,
    ← labels_eq_flatMap, behind]

/-- **A listing is read back**, item by item. -/
theorem labels_of_listing {items : List (List Char)} {output : List Char}
    (h : Text.Listing items output) : labels output = items := by
  induction h with
  | @blank s blank =>
    have all := labels_blank_append blank []
    rwa [List.append_nil] at all
  | last isItem =>
    rw [labels_eq_flatMap, isItem.lines_eq, List.flatMap_singleton, labelOn_item isItem]
  | item isItem ended h ih =>
    rw [labels_line isItem.unbroken ended, labelOn_item isItem, ih]
    rfl
  | blankLine blank ended h ih =>
    rw [labels_blank_append blank, labels_blank_append ended.isBlank, ih]

/-- Labels are items. -/
theorem isItem_of_mem_labels {output label : List Char} (h : label ∈ labels output) :
    IsItem label := by
  obtain ⟨member, visible⟩ := List.mem_filter.mp h
  obtain ⟨line, isLine, rfl⟩ := List.mem_map.mp member
  apply Text.isItem_trim
  · exact fun c inside => Text.not_isLineBreak_of_mem_lines isLine inside
  · simpa using visible

/-- The labels stand in the output in order. -/
theorem inOrder_labels (output : List Char) : InOrder (labels output) output :=
  (Text.inOrder_lines output).map_trim.of_sublist List.filter_sublist

end Query

end OwnerBuild
