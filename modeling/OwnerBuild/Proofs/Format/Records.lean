/-
# OwnerBuild.Proofs.Format.Records -- the records in an output

Records are found line by line, so an output is read in parts: at every line feed the
records of the whole are those of the part before it, followed by those of the part
behind (`records_append_newline`). A line without breaks that begins with a brace is the
one record of itself, trimmed.

What is accepted as a message at all begins, behind blanks, with a brace, and trimming
it does not change what is read from it. So filtering can lose nothing on a line that
holds a message and no break.
-/

import OwnerBuild.Format
import OwnerBuild.Proofs.Json.Accepted

namespace OwnerBuild.Format

open Rustc (Message)
open Text (isBlank isLineBreak trim joinWith)

/-! ## Outputs in parts -/

/-- The records of an output, as a reader of lines that takes nothing from most. -/
theorem records_eq_flatMap (output : List Char) : records output =
    (Text.lines output).flatMap fun line => if isRecordLine line then [trim line] else [] := by
  rw [records]
  induction Text.lines output with
  | nil => rfl
  | cons line rest ih =>
    rw [List.flatMap_cons, ← ih, List.filter_cons]
    split <;> rfl

@[simp] theorem records_nil : records [] = [] := rfl

/-- **The records of an output are those before a line feed in it and those behind.** -/
theorem records_append_newline (xs ys : List Char) :
    records (xs ++ '\n' :: ys) = records xs ++ records ys := by
  simp only [records_eq_flatMap]
  exact Text.flatMap_lines_append_newline rfl xs ys

/-- The records of lines that are joined by line feeds are those of each. -/
theorem records_joinWith (ls : List (List Char)) :
    records (joinWith ['\n'] ls) = ls.flatMap records := by
  induction ls with
  | nil => rfl
  | cons line rest ih =>
    cases rest with
    | nil => rw [joinWith, List.flatMap_cons, List.flatMap_nil, List.append_nil]
    | cons next others =>
      rw [joinWith, List.append_assoc, List.singleton_append, records_append_newline, ih]
      exact List.flatMap_cons.symm

theorem parse_append (root : Path) (rs ss : List (List Char)) :
    parse root (rs ++ ss) = parse root rs ++ parse root ss :=
  List.flatMap_append

theorem parse_singleton (root : Path) (record : List Char) :
    parse root [record] = diagnosticsIn root record :=
  List.flatMap_singleton _ _

/-! ## One line -/

/-- A line without breaks that begins with a brace is the record of itself. -/
theorem records_of_unbroken {line : List Char} (unbroken : ∀ c ∈ line, isLineBreak c = false)
    (brace : isRecordLine line = true) : records line = [trim line] := by
  have visible : line ≠ [] := by
    rintro rfl
    cases brace
  rw [records, Text.lines_of_unbroken unbroken visible, List.filter_cons_of_pos brace]
  rfl

/-- Records hold no break. -/
theorem not_isLineBreak_of_mem_records {output record : List Char} {c : Char}
    (h : record ∈ records output) (hc : c ∈ record) : isLineBreak c = false := by
  obtain ⟨line, kept, rfl⟩ := List.mem_map.mp h
  exact Text.not_isLineBreak_of_mem_lines (List.mem_filter.mp kept).1 (Text.mem_of_mem_trim hc)

/-! ## Lines that hold messages -/

/-- What is read as a message says an object. -/
theorem exists_members_of_read? {line : List Char} {m : Message}
    (h : Message.read? line = some m) : ∃ members, Json.read? line = some (.object members) := by
  obtain ⟨v, read, message⟩ := Option.bind_eq_some_iff.mp h
  cases v with
  | object members => exact ⟨members, read⟩
  | null => cases message
  | bool b => cases message
  | number n => cases message
  | string s => cases message
  | array items => cases message

/-- **What is read as a message begins, behind blanks, with a brace.** -/
theorem isRecordLine_of_read? {line : List Char} {m : Message}
    (h : Message.read? line = some m) : isRecordLine line = true := by
  obtain ⟨members, read⟩ := exists_members_of_read? h
  exact beq_iff_eq.mpr (Json.head?_trimStart_of_read? read)

/-- **Trimming does not change the message that is read.** -/
theorem read?_trim {line : List Char} {m : Message} (h : Message.read? line = some m) :
    Message.read? (trim line) = some m := by
  obtain ⟨v, read, message⟩ := Option.bind_eq_some_iff.mp h
  rw [Message.read?, (Json.read?_trim read).1, Option.bind_some, message]

/-- The record of a line that holds a message and no break. -/
theorem records_of_read? {line : List Char} {m : Message}
    (unbroken : ∀ c ∈ line, isLineBreak c = false) (h : Message.read? line = some m) :
    records line = [trim line] :=
  records_of_unbroken unbroken (isRecordLine_of_read? h)

end OwnerBuild.Format
