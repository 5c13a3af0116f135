/-
# OwnerBuild.Proofs.Format.Readback -- from messages to an output and back

A compiler writes each message as one record on a line of its own, and a build adds text
of its own between the lines. An output is described here by its segments, and what is
parsed from it is one segment's diagnostics after another's, in order (`readback`): the
text between adds nothing, because it has no records, and takes nothing away, because a
line feed separates it from what stands before and behind. The record of a message is
found because it is one line of printable ASCII, and it is read as the message because
that is within the limits of the reader.
-/

import OwnerBuild.Proofs.Format.Records
import OwnerBuild.Proofs.Rustc.Reread

namespace OwnerBuild.Format

open Json (Number Value)
open Rustc (Message)
open Text (isBlank isLineBreak trim)

/-! ## Outputs and their segments -/

/-- A part of an output: a message, or text that is none. -/
inductive Segment where
  | message (m : Message)
  | text (s : List Char)

namespace Segment

/-- A segment as it stands on lines of its own. -/
def write : Segment → List Char
  | .message m => m.toValue.write
  | .text s => s

/-- What an output promises of a segment: a message is within the limits of the reader,
and other text has no records. -/
def IsReadable : Segment → Prop
  | .message m => m.toValue.Fits Number.IsWritable 0
  | .text s => records s = []

/-- The diagnostics of a segment: those of its message, unless that only sums up. -/
def diagnostics (root : Path) : Segment → List Diagnostic
  | .message m => if m.isSummary then [] else diagnosticsOf root m
  | .text _ => []

end Segment

/-- The output of segments, each ended by a line feed. -/
def written (segments : List Segment) : List Char :=
  segments.flatMap fun segment => segment.write ++ ['\n']

/-! ## Records of messages -/

/-- The text of a message's object begins and ends with a brace. -/
theorem exists_write_toValue (m : Message) :
    ∃ inner, m.toValue.write = '\x7b' :: inner ++ ['\x7d'] := by
  obtain ⟨message, level, code, spans, children, rendered⟩ := m
  rw [Message.toValue, Value.write]
  exact ⟨_, rfl⟩

/-- No printable character breaks a line. -/
theorem not_isLineBreak_of_isPlain {c : Char} (h : Json.isPlain c = true) :
    isLineBreak c = false := by
  simp only [Json.isPlain, Bool.and_eq_true, decide_eq_true_eq] at h
  simp only [isLineBreak, Bool.or_eq_false_iff, Bool.and_eq_false_iff, decide_eq_false_iff_not,
    beq_eq_false_iff_ne]
  omega

/-- **The text of a message's object is one record**, and nothing of it is cut off. -/
theorem records_write_toValue (m : Message) : records m.toValue.write = [m.toValue.write] := by
  obtain ⟨inner, shape⟩ := exists_write_toValue m
  have unbroken : ∀ c ∈ m.toValue.write, isLineBreak c = false := by
    intro c h
    exact not_isLineBreak_of_isPlain (Json.isPlain_of_mem_write _ c h)
  have first : ∀ c, m.toValue.write.head? = some c → isBlank c = false := by
    rw [shape]
    rintro c ⟨⟩
    decide
  have last : ∀ c, m.toValue.write.getLast? = some c → isBlank c = false := by
    rw [shape, List.getLast?_append]
    rintro c ⟨⟩
    decide
  have brace : isRecordLine m.toValue.write = true := by
    rw [isRecordLine, Text.trimStart_eq_self first, shape]
    rfl
  rw [records_of_unbroken unbroken brace, Text.trim_eq_self first last]

/-- **The limits are exact**: a message is read from its record, or the record is no text that
can be read. -/
theorem isReadable_message_iff {m : Message} :
    (Segment.message m).IsReadable ↔ Message.read? m.toValue.write = some m := by
  constructor
  · exact Message.read?_write_toValue
  · intro read
    refine Classical.byContradiction fun unfit => ?_
    rw [Message.read?, Json.read?_write_eq_none unfit] at read
    cases read

/-- What is parsed from a segment on its own. -/
theorem parse_records_write {segment : Segment} (readable : segment.IsReadable) (root : Path) :
    parse root (records segment.write) = segment.diagnostics root := by
  cases segment with
  | message m =>
    have read : Message.read? m.toValue.write = some m := Message.read?_write_toValue readable
    rw [Segment.write, records_write_toValue, parse_singleton, diagnosticsIn, read]
    rfl
  | text s =>
    have none : records s = [] := readable
    rw [Segment.write, none]
    rfl

/-- What is parsed from an output is what is parsed from its segments. -/
theorem parse_records_written (root : Path) {segments : List Segment}
    (readable : ∀ segment ∈ segments, segment.IsReadable) :
    parse root (records (written segments)) = segments.flatMap (·.diagnostics root) := by
  induction segments with
  | nil => rfl
  | cons segment rest ih =>
    have first := parse_records_write (readable segment List.mem_cons_self) root
    have others := ih fun s hs => readable s (List.mem_cons_of_mem _ hs)
    -- the line feed behind the first segment is where the output comes apart
    rw [written, List.flatMap_cons, List.append_assoc, List.singleton_append,
      records_append_newline, parse_append, first, List.flatMap_cons]
    exact congrArg (segment.diagnostics root ++ ·) others

/-! ## The round trip -/

/-- **Messages are read back from an output in order**, from between any text that has no
records; and a message that has been read, in whatever form its record had, is read from
the record that it is written as. -/
theorem readback (root : Path) :
    (∀ segments : List Segment, (∀ segment ∈ segments, segment.IsReadable) →
      parse root (records (written segments)) = segments.flatMap (·.diagnostics root)) ∧
    ∀ record m, Message.read? record = some m → Message.read? m.toValue.write = some m :=
  ⟨fun _ readable => parse_records_written root readable,
    fun _ _ accepted => Message.read?_reread accepted⟩

/-- An error in one line of a file. -/
def errorAt (text : String) (line : Int) : Message :=
  { message := text, level := "error"
    spans := [{ fileName := "a.rs", lineStart := line, lineEnd := 1, columnStart := 1
                columnEnd := 1, isPrimary := true }] }

variable {text : String} {line : Int}

theorem fits_errorAt {P : Number → Prop} :
    (errorAt text line).toValue.Fits P 0 ↔ P (.integer line) ∧ P (.integer 1) := by
  simp [errorAt, Message.toValue, Rustc.Span.toValue, Rustc.textOrNull, Rustc.messagesToValues,
    Json.deepest]

theorem isReadable_errorAt (text : String) (line : Int) (h : line.natAbs < 2 ^ 63) :
    (Segment.message (errorAt text line)).IsReadable :=
  fits_errorAt.mpr ⟨Rustc.isShort_of_natAbs_lt h, Rustc.isShort_of_natAbs_lt (n := 1) (by decide)⟩

theorem diagnostics_errorAt (h : (errorAt text line).isSummary = false) (root : Path) :
    (Segment.message (errorAt text line)).diagnostics root =
      diagnosticsOf root (errorAt text line) := by
  rw [Segment.diagnostics, h]
  rfl

theorem isSummary_overflow : (errorAt "overflow" line).isSummary = false := by
  have opening : (Rustc.summaryOpenings.any fun opening =>
      opening.toList.isPrefixOf "overflow".toList) = false := by decide
  exact opening

theorem readback_overflow :
    parse (.ofText "/ws") (records (written
        [.text "INFO: building\r\n  [1 / 2]".toList, .message (errorAt "overflow" 3), .text []])) =
      diagnosticsOf (.ofText "/ws") (errorAt "overflow" 3) ∧
    Message.read? (errorAt "overflow" 3).toValue.write = some (errorAt "overflow" 3) := by
  have fit := isReadable_errorAt "overflow" 3 (by decide)
  obtain ⟨inOrder, reread⟩ := readback (.ofText "/ws")
  refine ⟨?_, reread _ _ (Message.read?_write_toValue fit)⟩
  rw [inOrder _ ?_]
  · rw [List.flatMap_cons, List.flatMap_cons, diagnostics_errorAt isSummary_overflow]
    exact List.append_nil _
  · intro segment h
    simp only [List.mem_cons, List.not_mem_nil, or_false] at h
    rcases h with rfl | rfl | rfl
    · have none : records "INFO: building\r\n  [1 / 2]".toList = [] := by decide
      exact none
    · exact fit
    · exact records_nil

end OwnerBuild.Format
