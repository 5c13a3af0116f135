/-
# OwnerBuild.Proofs.Format.Items -- labels and records are in normal form

The two readers of lines, the one for the labels that a query prints and the one for the records
that a build writes, take items out of an output: their results are trimmed texts of one line each,
they stand in the output in order, and reading them again, each on a line of its own, gives the
same list (`readers_normalForm`). Every record begins with a brace, which is what it was chosen for.

For labels the converse holds: every list of items is what is read from each text that lists them.
For records it cannot, since an item that does not begin with a brace is no record.
-/

import OwnerBuild.Proofs.Format.Records
import OwnerBuild.Proofs.Query.Labels

namespace OwnerBuild

open Text (IsItem InOrder IsLineEnd Listing isLineBreak joinWith trim)

namespace Format

/-! ## Records -/

/-- What trimming leaves of a record's line begins with the brace. -/
theorem head?_trim_of_isRecordLine {line : List Char} (brace : isRecordLine line = true) :
    (trim line).head? = some '\x7b' := by
  have start : (Text.trimStart line).head? = some '\x7b' := beq_iff_eq.mp brace
  have visible : trim line ≠ [] := by
    rw [Ne, Text.trim_eq_nil_iff]
    intro blank
    have nothing : Text.trimStart line = [] := List.dropWhile_eq_nil_iff.mpr blank
    rw [nothing] at start
    cases start
  obtain ⟨rest, split⟩ := Text.trim_prefix_trimStart line
  rw [← split, List.head?_append_of_ne_nil _ visible] at start
  exact start

/-- Records begin with a brace. -/
theorem head?_of_mem_records {output record : List Char} (h : record ∈ records output) :
    record.head? = some '\x7b' := by
  obtain ⟨line, kept, rfl⟩ := List.mem_map.mp h
  exact head?_trim_of_isRecordLine (List.mem_filter.mp kept).2

/-- Records are items. -/
theorem isItem_of_mem_records {output record : List Char} (h : record ∈ records output) :
    IsItem record := by
  have brace := head?_of_mem_records h
  obtain ⟨line, kept, rfl⟩ := List.mem_map.mp h
  apply Text.isItem_trim
  · exact fun c inside => Text.not_isLineBreak_of_mem_lines (List.mem_filter.mp kept).1 inside
  · intro nothing
    rw [nothing] at brace
    cases brace

/-- The records stand in the output in order. -/
theorem inOrder_records (output : List Char) : InOrder (records output) output :=
  ((Text.inOrder_lines output).of_sublist List.filter_sublist).map_trim

/-- An item that begins with a brace is the one record of itself. -/
theorem records_of_isItem {item : List Char} (h : IsItem item)
    (brace : item.head? = some '\x7b') : records item = [item] := by
  have isRecord : isRecordLine item = true := by
    rw [isRecordLine, Text.trimStart_eq_self h.first, brace]
    rfl
  rw [records_of_unbroken h.unbroken isRecord, h.trim_eq]

/-- Records that are joined by line feeds are read back. -/
theorem records_joinWith_of_isItem {items : List (List Char)} (each : ∀ item ∈ items, IsItem item)
    (brace : ∀ item ∈ items, item.head? = some '\x7b') :
    records (joinWith ['\n'] items) = items := by
  rw [records_joinWith]
  induction items with
  | nil => rfl
  | cons item items ih =>
    obtain ⟨isItem, others⟩ := List.forall_mem_cons.mp each
    obtain ⟨begun, begun'⟩ := List.forall_mem_cons.mp brace
    rw [List.flatMap_cons, records_of_isItem isItem begun, ih others begun']
    rfl

end Format

/-! ## Readers -/

namespace Text

/-- That a reader of lines takes items out of every output, in order, and reads them back. -/
structure ReadsItems (read : List Char → List (List Char)) : Prop where
  /-- What is read is trimmed, on one line, and not empty. -/
  each : ∀ output, ∀ item ∈ read output, IsItem item
  /-- What is read stands in the output one behind the other. -/
  inOrder : ∀ output, InOrder (read output) output
  /-- What is read, joined by line feeds, is read again. -/
  stable : ∀ output, read (joinWith ['\n'] (read output)) = read output

theorem readsItems_labels : ReadsItems Query.labels where
  each := fun _ _ label => Query.isItem_of_mem_labels label
  inOrder := Query.inOrder_labels
  stable := by
    intro output
    apply Query.labels_of_listing
    exact listing_joinWith fun _ label => Query.isItem_of_mem_labels label

theorem readsItems_records : ReadsItems Format.records where
  each := fun _ _ record => Format.isItem_of_mem_records record
  inOrder := Format.inOrder_records
  stable := by
    intro output
    apply Format.records_joinWith_of_isItem
    · exact fun _ record => Format.isItem_of_mem_records record
    · exact fun _ record => Format.head?_of_mem_records record

/-- **Both readers of lines produce a normal form**, records begin with a brace, and every list of
items is read back from each text that lists it. -/
theorem readers_normalForm : ReadsItems Query.labels ∧ ReadsItems Format.records ∧
    (∀ output, ∀ record ∈ Format.records output, record.head? = some '\x7b') ∧
    ∀ items output, Listing items output → Query.labels output = items := by
  refine ⟨readsItems_labels, readsItems_records, ?_, ?_⟩
  · exact fun _ _ record => Format.head?_of_mem_records record
  · exact fun _ _ listing => Query.labels_of_listing listing

/-- Three labels on lines that are ended in three ways, with blank lines and no line end behind the
last one, and a record among other lines. -/
theorem readers_normalForm_mixed :
    Listing ["//:a b".toList, "//:c".toList, "//:d".toList]
      "\x0c//:a b\r\n \t\u2028//:c\u0085//:d".toList ∧
    Query.labels "\x0c//:a b\r\n \t\u2028//:c\u0085//:d".toList =
      ["//:a b".toList, "//:c".toList, "//:d".toList] ∧
    "\x7b1".toList ∈ Format.records "INFO\n \x7b1 \n".toList ∧
    "\x7b1".toList.head? = some '\x7b' := by
  have item {s : List Char} (trimmed : trim s = s) (nonempty : s ≠ [])
      (unbroken : s.any isLineBreak = false) : IsItem s := by
    rw [← trimmed]
    rw [← trimmed] at nonempty
    exact isItem_trim (by simpa using unbroken) nonempty
  have blank (s : List Char) (all : s.all isBlank = true) : ∀ c ∈ s, isBlank c = true :=
    List.all_eq_true.mp all
  have ended {c : Char} (isBreak : isLineBreak c = true) : IsLineEnd [c] := .inr ⟨c, rfl, isBreak⟩
  have written : "\x0c//:a b\r\n \t\u2028//:c\u0085//:d".toList = [] ++ (['\x0c'] ++
      ("//:a b".toList ++ (['\r', '\n'] ++ (" \t".toList ++ (['\u2028'] ++
        ("//:c".toList ++ (['\u0085'] ++ "//:d".toList))))))) := by decide
  have listed : Listing ["//:a b".toList, "//:c".toList, "//:d".toList]
      "\x0c//:a b\r\n \t\u2028//:c\u0085//:d".toList := by
    rw [written]
    apply Listing.blankLine (blank _ (by decide)) (ended (by decide))
    apply Listing.item (item (by decide) (by decide) (by decide)) (.inl rfl)
    apply Listing.blankLine (blank _ (by decide)) (ended (by decide))
    apply Listing.item (item (by decide) (by decide) (by decide)) (ended (by decide))
    exact .last (item (by decide) (by decide) (by decide))
  have isRecord : "\x7b1".toList ∈ Format.records "INFO\n \x7b1 \n".toList := by decide
  exact ⟨listed, readers_normalForm.2.2.2 _ _ listed, isRecord,
    readers_normalForm.2.2.1 _ _ isRecord⟩

end Text

end OwnerBuild
