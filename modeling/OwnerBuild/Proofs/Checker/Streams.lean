/-
# OwnerBuild.Proofs.Checker.Streams -- the diagnostics of what a build wrote

What a program wrote is bytes, and they need not be text: a sequence may be cut short, and
every kind of line end may occur. Still the bytes between two line feeds are read on their
own (`diagnosticsWritten_append_newline`), so a line, or a whole stream, that makes no sense
cannot hide, change or move what is read of another one.

A check has a result exactly if a build has run, and its diagnostics are those of the one
stream followed by those of the other (`check_result_iff`, `diagnostics_chunkwise`). This is
said of every world: of launchers that change files between the query and the build, and
of those that leave other starts without an answer. A stream that was not kept counts as
one without bytes, and adds nothing.
-/

import OwnerBuild.Proofs.Checker.Runs
import OwnerBuild.Proofs.Format.Records
import OwnerBuild.Proofs.Text.Decoded

namespace OwnerBuild

open Text (newline)

namespace Format

/-! ## Diagnostics in bytes -/

/-- The diagnostics in what a program wrote. -/
def diagnosticsWritten (root : Path) (bytes : List UInt8) : List Diagnostic :=
  parse root (records (writtenText bytes))

/-- The diagnostics of what a program wrote are those of its lines. -/
theorem diagnosticsWritten_eq_flatMap (root : Path) (bytes : List UInt8) :
    diagnosticsWritten root bytes = (Text.lines (Text.decode bytes)).flatMap fun line =>
      if isRecordLine line then diagnosticsIn root (Text.trim line) else [] := by
  rw [diagnosticsWritten, parse, records_eq_flatMap, List.flatMap_assoc, writtenText]
  congr 1
  funext line
  split
  · exact List.flatMap_singleton _ _
  · rfl

/-- **What was written before a line feed and what was written behind it are read on their
own**, whatever bytes they end and begin with. -/
theorem diagnosticsWritten_append_newline (root : Path) (xs ys : List UInt8) :
    diagnosticsWritten root (xs ++ newline :: ys) =
      diagnosticsWritten root xs ++ diagnosticsWritten root ys := by
  rw [funext (diagnosticsWritten_eq_flatMap root)]
  exact Text.flatMap_lines_decode_append_newline rfl xs ys

/-- Parts that are joined by line feeds are read one after the other. -/
theorem diagnosticsWritten_intercalate (root : Path) (parts : List (List UInt8)) :
    diagnosticsWritten root ([newline].intercalate parts) =
      parts.flatMap (diagnosticsWritten root) := by
  rw [funext (diagnosticsWritten_eq_flatMap root)]
  exact Text.flatMap_lines_decode_intercalate rfl parts

/-- The records of two streams that are put together are those of each. -/
theorem records_joinStreams (output errors : List Char) :
    records (Checker.joinStreams output errors) = records output ++ records errors := by
  rw [Checker.joinStreams, records_joinWith]
  -- a stream without text is left out, and would have had no records
  cases output <;> cases errors <;> simp

end Format

namespace Checker

open Format (diagnosticsWritten)

variable {c : Checker} {path : Path} {w : World} {p : Prepared} {command : List String}
  {output errors : List UInt8} {status : Int}

/-- The diagnostics of a finished build are those of its streams, one behind the other. -/
theorem resultOf_eq : resultOf path p command output errors status =
    { path, workspace := p.workspace, targets := p.targets, command, status
      diagnostics := diagnosticsWritten p.workspace.root output ++
        diagnosticsWritten p.workspace.root errors } := by
  simp only [resultOf, Format.records_joinStreams, Format.parse_append, diagnosticsWritten]

/-! ## Results of checks -/

/-- That a check comes to a build that runs: what was prepared, the command for it, and what
the program wrote and ended with that was started. -/
structure BuildRan (c : Checker) (path : Path) (w : World) (p : Prepared) (command : List String)
    (output errors : List UInt8) (status : Int) : Prop where
  prepared : ((c.prepare path).run w).result = .ok (some p)
  assembled : Build.command c.settings c.format p.targets = .ok command
  answered : ∃ files, w.launcher (w.withFiles ((c.prepare path).run w).files).view
    ⟨command, p.workspace.root⟩ = some (.finished output errors status, files)

theorem build_result_iff {r : CheckResult} : (c.build path p w).result = .ok r ↔
    ∃ command output errors status, Build.command c.settings c.format p.targets = .ok command ∧
      (∃ files, w.launcher w.view ⟨command, p.workspace.root⟩ =
        some (.finished output errors status, files)) ∧
      r = resultOf path p command output errors status := by
  unfold build
  cases assembled : Build.command c.settings c.format p.targets with
  | error e =>
    rw [Action.bind_failed rfl]
    simp
  | ok command =>
    rw [Action.ofExcept_ok, Action.pure_bind, Action.bind_undisturbed (Action.note_run _)]
    simp only [Action.bind_result_eq_ok_iff, Action.start_result_eq_ok_iff]
    constructor
    · rintro ⟨answer, answered, run⟩
      cases answer with
      | refused e => cases run
      | finished output errors status =>
        replace run : (conclude path p command output errors status _).result = .ok r := run
        rw [conclude_run] at run
        exact ⟨command, output, errors, status, rfl, answered, (Except.ok.inj run).symm⟩
    · rintro ⟨_, output, errors, status, ⟨⟩, answered, rfl⟩
      refine ⟨_, answered, ?_⟩
      show (conclude path p command output errors status _).result = _
      rw [conclude_run]

/-- **A check has a result exactly if a build has run**, in whatever world. -/
theorem check_result_iff {r : CheckResult} : ((c.check path).run w).result = .ok (some r) ↔
    ∃ p command output errors status, BuildRan c path w p command output errors status ∧
      r = resultOf path p command output errors status := by
  show (c.check path w).result = _ ↔ _
  unfold check
  rw [Action.bind_result_eq_ok_iff]
  constructor
  · rintro ⟨prepared, isPrepared, run⟩
    cases prepared with
    | none =>
      dsimp only at run
      rw [Action.bind_undisturbed (Action.note_run _)] at run
      cases run
    | some p =>
      obtain ⟨_, built, ⟨⟩⟩ := Action.bind_result_eq_ok_iff.mp run
      obtain ⟨command, output, errors, status, assembled, answered, rfl⟩ := build_result_iff.mp built
      exact ⟨p, command, output, errors, status, ⟨isPrepared, assembled, answered⟩, rfl⟩
  · rintro ⟨p, command, output, errors, status, ran, rfl⟩
    refine ⟨some p, ran.prepared, ?_⟩
    refine Action.bind_result_eq_ok_iff.mpr ⟨_, build_result_iff.mpr ?_, rfl⟩
    exact ⟨command, output, errors, status, ran.assembled, ran.answered, rfl⟩

/-- **What a build wrote is read in parts.** Bytes are read on their own between line feeds;
and a check has exactly the results of builds that ran, each with the diagnostics of the one
stream followed by those of the other. -/
theorem diagnostics_chunkwise :
    (∀ root xs ys, diagnosticsWritten root (xs ++ newline :: ys) =
      diagnosticsWritten root xs ++ diagnosticsWritten root ys) ∧
    (∀ root parts, diagnosticsWritten root ([newline].intercalate parts) =
      parts.flatMap (diagnosticsWritten root)) ∧
    ∀ (c : Checker) (path : Path) (w : World) (r : CheckResult),
      ((c.check path).run w).result = .ok (some r) ↔
        ∃ p command output errors status, BuildRan c path w p command output errors status ∧
          r = { path, workspace := p.workspace, targets := p.targets, command, status
                diagnostics := diagnosticsWritten p.workspace.root output ++
                  diagnosticsWritten p.workspace.root errors } := by
  refine ⟨Format.diagnosticsWritten_append_newline, Format.diagnosticsWritten_intercalate, ?_⟩
  intro c path w r
  rw [check_result_iff]
  simp only [resultOf_eq]

end Checker

end OwnerBuild
