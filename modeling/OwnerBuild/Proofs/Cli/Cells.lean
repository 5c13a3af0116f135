/-
# OwnerBuild.Proofs.Cli.Cells -- texts from outside in the cells of tables

A table shows three kinds of texts that come from outside, each in a cell of its own: the file and
the message of a diagnostic, and the message of a finding. Such a cell is seen without a style and
in one piece, so no text can change how the table looks. Where emoji codes are left aside a text is
seen as it is exactly if printing takes no character out of it, none of its backslashes stands in
front of a bracket that begins no tag, and it does not end in exactly one backslash (`tables_show`).

Without the first of these conditions that would be wrong: a label with a bell in it is shown
without the bell (`bell_not_shown`).
-/

import Mathlib.Data.List.Forall2
import OwnerBuild.Proofs.Cli.Checked
import OwnerBuild.Proofs.Cli.SameLookup
import OwnerBuild.Proofs.Markup.Shown

namespace OwnerBuild.Cli

open Console (Item inStyle)
open Markup (EmojiTable EndsIn KeepsBackslashes NoCodes Printable Run escapeString render renderWith)

section Shown

variable [EmojiTable]

/-- What is seen in a cell that shows a text from outside. -/
structure CellOf (text : String) (cell : List Run) : Prop where
  /-- The cell has no style and is in one piece, or it is empty. -/
  unstyled : cell = [] ∨ ∃ shown, cell = [⟨shown, none⟩]
  /-- So it is with any other rule for emoji codes. -/
  unstyledWith : ∀ codes, renderWith codes (Markup.escape text.toList) = [] ∨
    ∃ shown, renderWith codes (Markup.escape text.toList) = [⟨shown, none⟩]
  /-- If no codes are replaced the text is seen as it is exactly under three conditions. -/
  verbatim_iff : (renderWith id (Markup.escape text.toList)).flatMap (·.text) = text.toList ↔
    Printable text.toList ∧ KeepsBackslashes text.toList ∧ ¬ EndsIn 1 text.toList
  /-- That is what is seen if there are no codes. -/
  noCodes : NoCodes (Markup.escape text.toList) →
    cell = renderWith id (Markup.escape text.toList)
  /-- So the cell has the text exactly if no piece of it has a known emoji code either. -/
  asIs_iff : cell.flatMap (·.text) = text.toList ↔ NoCodes (Markup.escape text.toList) ∧
    Printable text.toList ∧ KeepsBackslashes text.toList ∧ ¬ EndsIn 1 text.toList

theorem cellOf_escapeString (text : String) :
    CellOf text (render (escapeString text).toList) := by
  rw [escapeString, String.toList_ofList]
  exact
    { unstyled := Markup.renderWith_escape Markup.replaceEmoji text.toList
      unstyledWith := fun codes => Markup.renderWith_escape codes text.toList
      verbatim_iff := by rw [Markup.text_renderWith_escape, Markup.shown_eq_iff]
      noCodes := Markup.render_eq_of_noCodes
      asIs_iff := Markup.text_render_escape_iff }

/-- That a row shows a diagnostic: the file in the first cell, and in the last one the message, with
how its code can be looked up. -/
def ShowsDiagnostic (d : Diagnostic) (row : List (List Run)) : Prop :=
  ∃ file message, CellOf d.file.text file ∧ CellOf (shownMessage d) message ∧
    row = [file, [⟨(toString d.line).toList, none⟩], [⟨(toString d.column).toList, none⟩],
      [⟨d.severity.text.toList, some (severityStyle d.severity)⟩], message]

/-- That a row shows a finding, with its message in the last cell. -/
def ShowsFinding (f : Finding) (row : List (List Run)) : Prop :=
  ∃ label message, CellOf f.message message ∧
    row = [label, [⟨f.verdict.text.toList, some (verdictStyle f.verdict)⟩], message]

theorem showsDiagnostic_shownRow (d : Diagnostic) : ShowsDiagnostic d (shownRow d) :=
  ⟨_, _, cellOf_escapeString _, cellOf_escapeString _, rfl⟩

theorem render_verdict (v : Verdict) :
    render (inStyle (verdictStyle v) v.text).toList = [⟨v.text.toList, some (verdictStyle v)⟩] := by
  cases v <;> exact (Markup.render_eq_of_noColon (by decide +kernel)).trans (by decide +kernel)

theorem showsFinding_findingRow (f : Finding) :
    ShowsFinding f ((findingRow f).map fun cell => render cell.toList) := by
  refine ⟨render f.label.toList, _, cellOf_escapeString f.message, ?_⟩
  rw [findingRow, List.map_cons, List.map_cons, List.map_cons, List.map_nil, render_verdict]

/-- **No text from outside changes how a table looks**, and when it is shown as it is: in the table
of a check for every diagnostic, in the table of a report for every finding. -/
theorem tables_show (results : List CheckResult) (findings : List Finding) :
    (∃ headers rows summary,
      (∀ w, ((printResults results).run w).printed = [.table headers rows, summary]) ∧
        List.Forall₂ ShowsDiagnostic (results.flatMap (·.diagnostics)) rows) ∧
      ∃ headers rows, findingsTable findings = .table headers rows ∧
        List.Forall₂ ShowsFinding findings rows := by
  have eachDiagnostic (ds : List Diagnostic) :
      List.Forall₂ ShowsDiagnostic ds (ds.map shownRow) := by
    rw [List.forall₂_map_right_iff]
    exact List.forall₂_same.mpr fun d _ => showsDiagnostic_shownRow d
  have eachFinding : List.Forall₂ ShowsFinding findings
      ((findings.map findingRow).map fun row => row.map fun cell => render cell.toList) := by
    rw [List.map_map, List.forall₂_map_right_iff]
    exact List.forall₂_same.mpr fun f _ => showsFinding_findingRow f
  constructor
  · refine ⟨["file", "line", "column", "severity", "message"], _,
      shownSummary (results.flatMap (·.diagnostics)).length (results.map (·.status)), ?_,
      eachDiagnostic _⟩
    intro w
    show (printResults results w).printed = _
    rw [printResults_run]
    rfl
  · exact ⟨["check", "status", "message"], _, rfl, eachFinding⟩

end Shown

/-- A label with a bell in it. -/
def bellLabel : String := "//:a\x07b"

/-- **A bell is not shown**: a label with a bell keeps its backslashes and ends in none, and its
cell is without the bell. -/
theorem bell_not_shown :
    KeepsBackslashes bellLabel.toList ∧ ¬ EndsIn 1 bellLabel.toList ∧
      findingsTable [⟨"Bazel targets", bellLabel, .success⟩] =
        .table ["check", "status", "message"] [[[⟨"Bazel targets".toList, none⟩],
          [⟨"success".toList, some "green"⟩], [⟨"//:ab".toList, none⟩]]] ∧
      "//:ab".toList ≠ bellLabel.toList := by
  have none : '\\' ∉ bellLabel.toList := by decide
  refine ⟨fun before after split => ?_, ?_, by decide +kernel, by decide⟩
  · rw [split] at none
    simp at none
  · rintro ⟨front, split, -⟩
    rw [split] at none
    simp at none

end OwnerBuild.Cli
