/-
# OwnerBuild.Proofs.Cli.Checked -- what a check prints

A check of a file with every checker that applies ends in one of three ways: with the line
of the first program that could not be run, with a line that there is nothing to check, or
with a table of all diagnostics and a line below it (`check_failed`, `check_nothing`,
`check_told`). The table is given cell by cell as it is seen (`shownRow`), not as the markup
that it is written in: numbers are printed as they are, a severity in its color, and the file
and the message as their escaped texts are printed. The line below the table has no markup
in it (`markup_summaryLine`).
-/

import OwnerBuild.Proofs.Checker.Series
import OwnerBuild.Proofs.Cli.Status
import OwnerBuild.Proofs.Markup.Shown
import OwnerBuild.Proofs.Registry.Registered

namespace OwnerBuild

/-! ## Checkers that apply -/

section Applicable

variable {r : Registry} {v : View} {path : Path} {found : Option Workspace}

/-- Which checkers apply is known as soon as the workspace is; they stay in the order of their
registration. -/
theorem Registry.exists_applicable (r : Registry) (located : v.workspace? path = .ok found) :
    ∃ checkers, r.applicable v path = .ok checkers ∧ checkers.Sublist r.checkers := by
  refine ⟨_, applicable_of_located located, ?_⟩
  cases found with
  | none => exact List.nil_sublist _
  | some w => exact List.filter_sublist

/-- The standard checker is found if it is registered. -/
theorem Registry.exists_get (registered : Checker.standardName ∈ r.names) :
    ∃ c, r.get Checker.standardName = .ok c := by
  obtain ⟨c, member, name⟩ := List.mem_map.mp registered
  cases found : r.get? Checker.standardName with
  | none => exact absurd (by simpa using name) (List.find?_eq_none.mp found c member)
  | some c => exact ⟨c, by rw [Registry.get, found]⟩

end Applicable

section Loops

variable {r : Registry} {path : Path} {w : World} {checkers : List Checker} {events : List Event}
  {results : Except Failure (List (Checker × CheckResult))}

theorem Registry.applicableTo_run (applicable : r.applicable w.view path = .ok checkers) :
    r.applicableTo path w = ⟨.ok checkers, w.view.files, []⟩ := by
  show (⟨(r.applicable w.view path).mapError .lookup, w.view.files, []⟩ : Outcome _) = _
  rw [applicable]
  rfl

/-- Checking with some checkers is a series. -/
theorem checkWith_run (series : Checker.Series path w checkers results events) :
    checkWith path checkers w = ⟨results, w.view.files, events⟩ := by
  induction series with
  | done => rfl
  | failed check =>
    rw [checkWith]
    exact Action.bind_failed check
  | @idle c rest events later results check others ih =>
    rw [checkWith, Action.bind_undisturbed check, Action.bind_pure_run ih]
    cases results <;> rfl
  | @checked c rest result events later results check others ih =>
    rw [checkWith, Action.bind_undisturbed check, Action.bind_pure_run ih]

theorem Registry.checkAll_run (applicable : r.applicable w.view path = .ok checkers)
    (series : Checker.Series path w checkers results events) :
    r.checkAll path w = ⟨results, w.view.files, events⟩ := by
  rw [Registry.checkAll, Action.bind_undisturbed (Registry.applicableTo_run applicable),
    checkWith_run series]
  rfl

end Loops

namespace Cli

open Console (Item inStyle)
open Markup (EmojiTable Run escapeString)

/-! ## What is seen of a result -/

section Seen

variable [EmojiTable]

/-- The text of a diagnostic, and how its code can be looked up. -/
def shownMessage (d : Diagnostic) : String :=
  match d.explanation? with
  | none => d.message
  | some explanation => d.message ++ "\n" ++ explanation

/-- The cells that show a diagnostic. -/
def shownRow (d : Diagnostic) : List (List Run) :=
  [Markup.render (escapeString d.file.text).toList,
    [⟨(toString d.line).toList, none⟩],
    [⟨(toString d.column).toList, none⟩],
    [⟨d.severity.text.toList, some (severityStyle d.severity)⟩],
    Markup.render (escapeString (shownMessage d)).toList]

/-- The table that shows some diagnostics. -/
def shownTable (ds : List Diagnostic) : Item :=
  .table ["file", "line", "column", "severity", "message"] (ds.map shownRow)

/-- The line that states how many diagnostics there are and how the builds ended. -/
def shownSummary (count : Nat) (statuses : List Int) : Item :=
  .verbatim ("(" ++ toString count ++ " diagnostics, build exit status " ++
    String.intercalate ", " (statuses.map toString) ++ ")")

/-- The line that there is nothing to check. -/
def nothingToCheck : Item := .line [⟨"Nothing to check.".toList, some "yellow"⟩] .output

theorem render_toString (n : Int) :
    Markup.render (toString n).toList = [⟨(toString n).toList, none⟩] := by
  refine Markup.render_eq_of_inert ?_ (Markup.all_inert_toString n)
  simpa using Markup.toString_ne_empty n

theorem render_severity (s : Severity) :
    Markup.render (inStyle (severityStyle s) s.text).toList =
      [⟨s.text.toList, some (severityStyle s)⟩] := by
  cases s <;> exact (Markup.render_eq_of_noColon (by decide +kernel)).trans (by decide +kernel)

theorem render_diagnosticRow (d : Diagnostic) :
    (diagnosticRow d).map (fun cell => Markup.render cell.toList) = shownRow d := by
  simp only [diagnosticRow, List.map_cons, List.map_nil, render_toString, render_severity]
  rfl

/-- The line below the table is printed as it is. -/
theorem markup_summaryLine (results : List CheckResult) :
    Item.markup (summaryLine results) =
      shownSummary (results.flatMap (·.diagnostics)).length (results.map (·.status)) := by
  have same : summaryLine results = "(" ++ toString (results.flatMap (·.diagnostics)).length ++
      " diagnostics, build exit status " ++
      String.intercalate ", " ((results.map (·.status)).map toString) ++ ")" := by
    rw [List.map_map]
    rfl
  have visible : (summaryLine results).toList ≠ [] := by simp [summaryLine]
  -- words, digits, signs and commas: nothing in the line means anything to printing
  have inert : (summaryLine results).toList.all Markup.isInert = true := by
    have count : (toString (results.flatMap (·.diagnostics)).length).toList.all Markup.isInert =
        true := Markup.all_inert_repr _
    have statuses : ∀ text ∈ (results.map fun r => toString r.status).map String.toList,
        text.all Markup.isInert = true := by
      intro text member
      obtain ⟨r, -, rfl⟩ : ∃ r ∈ results, (toString r.status).toList = text := by
        simpa using member
      exact Markup.all_inert_toString r.status
    have between : (", " : String).toList.all Markup.isInert = true := by decide
    have separated := Markup.all_inert_intercalate between statuses
    have words : ("(" : String).toList.all Markup.isInert = true ∧
        (" diagnostics, build exit status " : String).toList.all Markup.isInert = true ∧
        (")" : String).toList.all Markup.isInert = true := by decide
    simp only [summaryLine, String.toList_append, List.all_append, String.toList_intercalate,
      words, count, separated, Bool.and_self]
  rw [Item.markup, Markup.render_eq_of_inert visible inert, shownSummary, ← same]
  rfl

end Seen

/-! ## What is printed -/

theorem printResults_run [EmojiTable] (results : List CheckResult) (w : World) :
    printResults results w =
      ⟨.ok (exitStatus (results.any (·.hasErrors))), w.view.files,
        [.printed (shownTable (results.flatMap (·.diagnostics))),
          .printed (shownSummary (results.flatMap (·.diagnostics)).length
            (results.map (·.status)))]⟩ := by
  have table : Item.markupTable ["file", "line", "column", "severity", "message"]
      ((results.flatMap (·.diagnostics)).map diagnosticRow) =
        shownTable (results.flatMap (·.diagnostics)) := by
    rw [Item.markupTable, shownTable, List.map_map]
    exact congrArg _ (List.map_congr_left fun d _ => render_diagnosticRow d)
  rw [← table, ← markup_summaryLine]
  rfl

section Check

variable [EmojiTable] {r : Registry} {path : Path} {w : World} {checkers : List Checker} {events : List Event}

/-- The first program that could not be run ends a check with its line. -/
theorem check_failed {executable reason : String}
    (applicable : r.applicable w.view path = .ok checkers)
    (series : Checker.Series path w checkers (.error (.launch executable reason)) events) :
    check r path w = ⟨.ok 1, w.view.files,
      events ++ [.printed (launchLine (.launch executable reason))]⟩ :=
  orTell_launch (Registry.checkAll_run applicable series)

/-- Without a result a check says so. -/
theorem check_nothing (applicable : r.applicable w.view path = .ok checkers)
    (series : Checker.Series path w checkers (.ok []) events) :
    check r path w = ⟨.ok 0, w.view.files, events ++ [.printed nothingToCheck]⟩ := by
  have line : Item.markup (inStyle "yellow" "Nothing to check.") = nothingToCheck := by
    refine congrArg (Item.line · .output) ?_
    exact (Markup.render_eq_of_noColon (by decide +kernel)).trans (by decide +kernel)
  rw [check, orTell_undisturbed (Registry.checkAll_run applicable series), ← line]
  rfl

/-- With results a check shows all their diagnostics in one table. -/
theorem check_told {found : List (Checker × CheckResult)}
    (applicable : r.applicable w.view path = .ok checkers)
    (series : Checker.Series path w checkers (.ok found) events) (some : found ≠ []) :
    check r path w = ⟨.ok (exitStatus ((found.map (·.2)).any (·.hasErrors))), w.view.files,
      events ++ [.printed (shownTable ((found.map (·.2)).flatMap (·.diagnostics))),
        .printed (shownSummary ((found.map (·.2)).flatMap (·.diagnostics)).length
          ((found.map (·.2)).map (·.status)))]⟩ := by
  rw [check, orTell_undisturbed (Registry.checkAll_run applicable series)]
  -- the command tells an empty list from others by its first item
  cases found with
  | nil => exact absurd rfl some
  | cons first rest =>
    dsimp only
    rw [printResults_run]

end Check

end Cli

end OwnerBuild
