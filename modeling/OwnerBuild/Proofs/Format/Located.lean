/-
# OwnerBuild.Proofs.Format.Located -- errors that are dropped for what they say

A message that only sums up is known by how its text begins, and is dropped whether it
has a location or not. But the text of an error can be chosen by the program that is
compiled. `located_error_reported_iff` says what this costs: an error with a location is
reported there, by every list of records that holds it, exactly if its text begins as no
summary does. If it is reported then nothing can hide it again: a result with these
diagnostics has an error, and a check that comes to such a result exits with 1. If its text
begins as a summary does then the record adds nothing at all.
-/

import OwnerBuild.Proofs.Cli.Status
import OwnerBuild.Markup.Names
import OwnerBuild.Proofs.Format.Readback

namespace OwnerBuild.Format

open Rustc (Message Span primarySpan?)

/-! ## Levels -/

/-- The levels of messages that are no errors. -/
def milderLevels : List String := ["warning", "failure-note", "note", "help"]

/-- **Every level is an error** but the four that are known to be milder. -/
theorem severityOf_eq_error_iff (level : String) :
    severityOf level = .error ↔ level ∉ milderLevels := by
  constructor
  · intro h mild
    have all : ∀ level ∈ milderLevels, severityOf level ≠ .error := by decide
    exact all level mild h
  · intro h
    unfold severityOf
    cases known : levels.lookup level with
    | none => rfl
    | some severity =>
      obtain ⟨before, after, split, -⟩ := List.lookup_eq_some_iff.mp known
      have listed : (level, severity) ∈ levels := by simp [split]
      have all : ∀ entry ∈ levels, entry.1 ∈ milderLevels ∨ entry.2 = .error := by decide
      rcases all _ listed with mild | error
      · exact absurd mild h
      · exact error

/-! ## Located errors -/

/-- Whether a diagnostic is an error where a span begins. -/
structure IsErrorAt (root : Path) (span : Span) (d : Diagnostic) : Prop where
  severity : d.severity = .error
  file : d.file = root.join (.ofText span.fileName)
  line : d.line = span.lineStart
  column : d.column = span.columnStart

variable {record : List Char} {records : List (List Char)} {m : Message} {span : Span}

/-- A located error that does not sum up is reported where it is. -/
theorem exists_isErrorAt (root : Path) (accepted : Message.read? record = some m)
    (located : primarySpan? m.spans = some span) (level : m.level ∉ milderLevels)
    (single : m.isSummary = false) (mem : record ∈ records) :
    ∃ d ∈ parse root records, IsErrorAt root span d := by
  refine ⟨diagnosticAt root span m.level (fullText m span) (m.code.map (·.code)), ?_, ?_⟩
  · refine List.mem_flatMap.mpr ⟨record, mem, ?_⟩
    rw [diagnosticsIn, accepted]
    simp only [single, Bool.false_eq_true, if_false, diagnosticsOf, located]
    exact List.mem_cons_self
  · exact ⟨(severityOf_eq_error_iff m.level).mpr level, rfl, rfl, rfl⟩

/-- A message that sums up has no diagnostics, wherever it is. -/
theorem diagnosticsIn_of_isSummary (root : Path) (accepted : Message.read? record = some m)
    (sums : m.isSummary = true) : diagnosticsIn root record = [] := by
  rw [diagnosticsIn, accepted]
  exact if_pos sums

theorem hasErrors_of_isErrorAt {root : Path} {d : Diagnostic} {result : CheckResult}
    (reported : d ∈ result.diagnostics) (error : IsErrorAt root span d) :
    result.hasErrors = true := by
  refine List.any_eq_true.mpr ⟨d, reported, ?_⟩
  rw [error.severity]
  rfl

/-- **Which located errors are reported**: exactly those whose text begins as no summary
does are reported at their first primary span by every list of records that holds them.
They then make every result with these diagnostics one with an error, and every check with
such a result exit with 1. -/
theorem located_error_reported_iff [Markup.EmojiTable] (accepted : Message.read? record = some m)
    (located : primarySpan? m.spans = some span) (level : m.level ∉ milderLevels) :
    ((∀ root records, record ∈ records → ∃ d ∈ parse root records, IsErrorAt root span d) ↔
      m.isSummary = false) ∧
    (m.isSummary = false → ∀ (result : CheckResult) (root : Path) (records : List (List Char)),
      record ∈ records → result.diagnostics = parse root records →
      result.hasErrors = true ∧
        ∀ (r : Registry) (path : Path) (w : World) (c : Checker)
          (results : List (Checker × CheckResult)), (r.checkAll path w).result = .ok results →
          (c, result) ∈ results → (Cli.check r path w).result = .ok 1) := by
  refine ⟨⟨?_, ?_⟩, ?_⟩
  · intro reported
    refine Bool.eq_false_iff.mpr fun sums => ?_
    obtain ⟨d, mem, -⟩ := reported (.ofText "/") [record] (List.mem_singleton_self record)
    rw [parse_singleton, diagnosticsIn_of_isSummary _ accepted sums] at mem
    cases mem
  · intro single root records mem
    exact exists_isErrorAt root accepted located level single mem
  · intro single result root records mem parsed
    obtain ⟨d, reported, error⟩ := exists_isErrorAt root accepted located level single mem
    have bad := hasErrors_of_isErrorAt (parsed ▸ reported) error
    refine ⟨bad, ?_⟩
    intro r path w c results checked among
    exact Cli.check_status_one checked among bad

theorem located_error_reported_overflow :
    (∃ d ∈ parse (.ofText "/ws") [(errorAt "overflow" 3).toValue.write],
      IsErrorAt (.ofText "/ws") ⟨"a.rs", 3, 1, 1, 1, true, none⟩ d) ∧
    CheckResult.hasErrors
      { path := .ofText "/ws/a.rs", workspace := ⟨.ofText "/ws"⟩, targets := ["//:a"]
        command := ["bazel", "build", "//:a"], status := 1
        diagnostics := parse (.ofText "/ws") [(errorAt "overflow" 3).toValue.write] } = true := by
  have accepted := Message.read?_write_toValue (isReadable_errorAt "overflow" 3 (by decide))
  obtain ⟨reported, exits⟩ := located_error_reported_iff accepted rfl (by decide)
  exact ⟨reported.mpr isSummary_overflow _ _ (List.mem_singleton_self _),
    (exits isSummary_overflow _ _ _ (List.mem_singleton_self _) rfl).1⟩

/-- **An error is dropped for its text**: it is accepted, it has a location, and nothing
is said of it. -/
theorem parse_located_summary :
    Message.read? (errorAt "aborting due to overflow" 3).toValue.write =
        some (errorAt "aborting due to overflow" 3) ∧
      (primarySpan? (errorAt "aborting due to overflow" 3).spans).isSome = true ∧
      parse (.ofText "/ws") [(errorAt "aborting due to overflow" 3).toValue.write] = [] := by
  have accepted := Message.read?_write_toValue
    (isReadable_errorAt "aborting due to overflow" 3 (by decide))
  have sums : (errorAt "aborting due to overflow" 3).isSummary = true := by
    have opening : (Rustc.summaryOpenings.any fun opening =>
        opening.toList.isPrefixOf "aborting due to overflow".toList) = true := by decide
    exact opening
  refine ⟨accepted, rfl, ?_⟩
  rw [parse_singleton, diagnosticsIn_of_isSummary _ accepted sums]

end OwnerBuild.Format
