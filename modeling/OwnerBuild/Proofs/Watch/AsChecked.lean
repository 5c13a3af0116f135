/-
# OwnerBuild.Proofs.Watch.AsChecked -- a changed file is told what a check of it shows

A file that has changed is checked with the same checkers as by the command that checks a file, in
the same order, but by a loop that treats failures the other way: the command ends with the first
program that could not be run, the watcher tells it and goes on. So what the command starts is the
beginning of what the watcher starts, and all of it if every program could be run
(`Series.starts_prefix`, `Series.starts_eq`). Then the watcher says that there is nothing to check
exactly if the command does, and tells the diagnostics of the command's table line by line, below a
header for each result (`asChecked`).

That a line is the one that there is nothing to check can be told from its color, which no other
line has, whatever is in the path (`nothingLine_notMem_told`). The lines of diagnostics are printed
with their emoji codes replaced, so a diagnostic in line 100 is told without its line
(`told_without_line`).
-/

import Mathlib.Algebra.GroupWithZero.Nat
import OwnerBuild.Proofs.Cli.SameCheck
import OwnerBuild.Proofs.Cli.StyledLines
import OwnerBuild.Proofs.Watch.DiagnosticLine
import OwnerBuild.Proofs.Watch.InTurn

namespace OwnerBuild

/-! ## What a series starts -/

namespace Checker

variable {path : Path} {w : World} {checkers : List Checker} {events : List Event}
  {results : Except Failure (List (Checker × CheckResult))}

/-- What some checkers start for a path if each of them is run. -/
def startsOfAll (path : Path) (w : World) (checkers : List Checker) : List Start :=
  checkers.flatMap fun c => ((c.check path).run w).starts

/-- That no program of some checkers fails to be run. -/
def AllRun (path : Path) (w : World) (checkers : List Checker) : Prop :=
  ∀ c ∈ checkers, ∃ result, ((c.check path).run w).result = .ok result

theorem startsOfAll_cons {c : Checker} {result : Except Failure (Option CheckResult)}
    {files : FileTree} (check : c.check path w = ⟨result, files, events⟩) :
    startsOfAll path w (c :: checkers) =
      events.filterMap Event.start? ++ startsOfAll path w checkers := by
  rw [startsOfAll, List.flatMap_cons, Outcome.starts, Action.run, check]
  rfl

theorem allRun_cons {c : Checker} {result : Option CheckResult} {files : FileTree}
    (check : c.check path w = ⟨.ok result, files, events⟩) :
    AllRun path w (c :: checkers) ↔ AllRun path w checkers := by
  rw [AllRun, AllRun, List.forall_mem_cons, Action.run, check]
  exact and_iff_right ⟨result, rfl⟩

namespace Series

theorem ok_iff (h : Series path w checkers results events) :
    (∃ found, results = .ok found) ↔ AllRun path w checkers := by
  induction h with
  | done => exact iff_of_true ⟨_, rfl⟩ (fun _ member => absurd member List.not_mem_nil)
  | failed check =>
    -- the series ends here, with a program that could not be run
    refine iff_of_false (fun ⟨_, same⟩ => nomatch same) fun all => ?_
    obtain ⟨result, ran⟩ := all _ (.head _)
    rw [Action.run, check] at ran
    cases ran
  | idle check others ih => rw [ih, allRun_cons check]
  | @checked c rest result events later results check others ih =>
    have kept : (∃ found, results.map ((c, result) :: ·) = .ok found) ↔
        ∃ found, results = .ok found := by
      cases results <;> simp [Except.map]
    rw [kept, ih, allRun_cons check]

/-- **A series starts the beginning of what all checks start.** -/
theorem starts_prefix (h : Series path w checkers results events) :
    events.filterMap Event.start? <+: startsOfAll path w checkers := by
  induction h with
  | done => exact List.prefix_rfl
  | failed check =>
    rw [startsOfAll_cons check]
    exact List.prefix_append _ _
  | idle check others ih | checked check others ih =>
    rw [startsOfAll_cons check, List.filterMap_append]
    exact (List.prefix_append_right_inj _).mpr ih

/-- **A series that does not fail starts all of it.** -/
theorem starts_eq {found : List (Checker × CheckResult)}
    (h : Series path w checkers (.ok found) events) :
    events.filterMap Event.start? = startsOfAll path w checkers := by
  generalize fine : Except.ok found = results at h
  induction h generalizing found with
  | done => rfl
  | failed check => cases fine
  | idle check others ih => rw [startsOfAll_cons check, List.filterMap_append, ih fine]
  | @checked c rest result events later results check others ih =>
    cases results with
    | error e => cases fine
    | ok behind =>
      rw [startsOfAll_cons check, List.filterMap_append, ih rfl]

end Series

end Checker

/-! ## Lines and their styles -/

namespace Console

open Markup (EmojiTable IsTagName styleOf)

/-- Whether something is shown in a style. -/
def Item.shows (style : String) : Item → Bool
  | .line runs _ => runs.any (·.style = some style)
  | .table .. => false

section Styled

variable [EmojiTable] {style : String} (isName : IsTagName style.toList) (text : String)
  {words after : String}
include isName

/-- A styled line shows nothing in another style, whatever text is escaped in it. -/
theorem Item.shows_styledMarkup_other {other : String} (differs : styleOf style.toList ≠ other)
    (unopened : '[' ∉ words.toList) (unclosed : ']' ∉ words.toList)
    (inAfter : '[' ∉ after.toList) :
    (Item.markup (styledMarkup style "" text words after)).shows other = false := by
  rw [Item.markup, Item.shows, List.any_eq_false]
  intro run member isOther
  rw [toList_styledMarkup] at member
  have same : other = styleOf style.toList :=
    Markup.style_render_line isName unopened unclosed inAfter text.toList member
      (by simpa using isOther)
  exact differs same.symm

/-- One with a blank among its words shows something in its own style. -/
theorem Item.shows_styledMarkup (opens : style.toList.head? ≠ some '/')
    (unopened : '[' ∉ words.toList) (unclosed : ']' ∉ words.toList)
    (blank : ' ' ∈ words.toList) :
    (Item.markup (styledMarkup style "" text words after)).shows (styleOf style.toList) = true := by
  obtain ⟨run, member, isStyle⟩ := Markup.exists_render_line isName opens unopened unclosed blank
    text.toList after.toList
  rw [Item.markup, Item.shows, List.any_eq_true, toList_styledMarkup]
  exact ⟨run, member, by simpa using isStyle⟩

end Styled

end Console

namespace Watch

open Checker (AllRun FirstFailure Series result? startsOfAll)
open Console (Item)
open Markup (EmojiTable StyleTag styleTag)

section Table

variable [EmojiTable] {r : Registry} {path : Path} {w : World} {checkers : List Checker}
  {events : List Event}

/-- **The line that there is nothing to check is yellow.** -/
theorem shows_nothingLine (path : Path) : (nothingLine path).shows "yellow" = true := by
  have isStyle : StyleTag "yellow".toList "yellow" := styleTag (by decide)
  rw [nothingLine_eq]
  show (Item.markup _).shows (Markup.styleOf "yellow".toList) = true
  exact Item.shows_styledMarkup isStyle.toIsTagName path.text (by decide) (by decide) (by decide)
    (by decide)

theorem shows_headerLine (path : Path) (count : Nat) :
    (headerLine path count).shows "yellow" = false := by
  have isStyle : StyleTag "bold".toList "bold" := styleTag (by decide)
  have behind : '[' ∉ (headerWords count).toList :=
    fun member => ((plain_headerWords count).unmarked '[' member).1 rfl
  rw [headerLine_eq]
  exact Item.shows_styledMarkup_other isStyle.toIsTagName path.text (by decide) (by decide)
    (by decide) behind

theorem shows_launchLine (e : Failure) : (Cli.launchLine e).shows "yellow" = false := by
  have isStyle : StyleTag "red".toList "red" := styleTag (by decide)
  rw [Cli.launchLine_eq]
  exact Item.shows_styledMarkup_other isStyle.toIsTagName e.message (by decide) (by decide)
    (by decide) (by decide)

theorem shows_diagnosticLine (d : Diagnostic) : (diagnosticLine d).shows "yellow" = false := by
  show (Markup.renderPlain (diagnosticText d).toList).any (·.style = some "yellow") = false
  rw [Markup.renderPlain, List.any_eq_false]
  intro run member
  obtain ⟨stretch, isStretch, _, same⟩ := Markup.style_mem_mergeRuns_iff.mp ⟨run, member, rfl⟩
  rw [← same, List.mem_singleton.mp isStretch]
  simp

/-- **No other line is that line.** -/
theorem nothingLine_notMem_told (path : Path) (came : Except Failure (Option CheckResult)) :
    nothingLine path ∉ told path came := by
  have other : ∀ item ∈ told path came, item.shows "yellow" = false := by
    intro item member
    match came with
    | .error e =>
      rw [List.mem_singleton.mp member]
      exact shows_launchLine e
    | .ok none => cases member
    | .ok (some result) =>
      rcases List.mem_cons.mp member with rfl | isDiagnostic
      · exact shows_headerLine path _
      · obtain ⟨d, _, rfl⟩ := List.mem_map.mp isDiagnostic
        exact shows_diagnosticLine d
  intro member
  have none := other _ member
  rw [shows_nothingLine] at none
  cases none

/-! ## What is seen of a changed file -/

/-- The lines that tell a result. -/
def resultLines (path : Path) (result : CheckResult) : List Item :=
  headerLine path result.diagnostics.length :: result.diagnostics.map diagnosticLine

/-- If every program could be run the results are told, one after the other. -/
theorem linesOf_results (all : AllRun path w checkers) :
    checkers.flatMap (linesOf path w) =
      (checkers.filterMap (result? path w)).flatMap (resultLines path) := by
  induction checkers with
  | nil => rfl
  | cons c rest ih =>
    obtain ⟨⟨result, ran⟩, others⟩ := List.forall_mem_cons.mp all
    rw [List.flatMap_cons, ih others, linesOf, ran]
    cases result with
    | none =>
      have none : result? path w c = none := by rw [result?, ran]
      rw [List.filterMap_cons_none none]
      rfl
    | some result =>
      have some : result? path w c = some result := by rw [result?, ran]
      rw [List.filterMap_cons_some some, List.flatMap_cons]
      rfl

/-- Nothing is told of a check exactly if there was nothing to check. -/
theorem linesOf_eq_nil_iff {c : Checker} :
    linesOf path w c = [] ↔ ((c.check path).run w).result = .ok none := by
  rw [linesOf]
  rcases ((c.check path).run w).result with e | none | result
  · simp [told]
  · simp [told]
  · simp [told]

theorem nothingLine_notMem_linesOf (path : Path) (w : World) (checkers : List Checker) :
    nothingLine path ∉ checkers.flatMap (linesOf path w) := by
  intro member
  obtain ⟨c, _, isLine⟩ := List.mem_flatMap.mp member
  exact nothingLine_notMem_told path _ isLine

/-- Telling starts nothing. -/
theorem starts_blocks (path : Path) (w : World) (checkers : List Checker) :
    (blocks path w checkers).filterMap Event.start? = startsOfAll path w checkers := by
  have each : ∀ c, (block path w c).filterMap Event.start? = ((c.check path).run w).starts := by
    intro c
    rw [block, List.filterMap_append, List.filterMap_map]
    simp [Outcome.starts, Function.comp_def]
  rw [blocks, List.filterMap_append, List.filterMap_flatMap, startsOfAll]
  simp only [each]
  split <;> simp

/-- Checking prints nothing, so what is printed are the lines. -/
theorem printed_blocks {v : View} {found : Option Workspace} (answer : Start → Answer)
    (located : v.workspace? path = .ok found) (checkers : List Checker) :
    (blocks path (.answering v answer) checkers).filterMap Event.item? =
      checkers.flatMap (linesOf path (.answering v answer)) ++
        if ∀ c ∈ checkers, ((c.check path).run (.answering v answer)).result = .ok none then
          [nothingLine path] else [] := by
  have each : ∀ c, (block path (.answering v answer) c).filterMap Event.item? =
      linesOf path (.answering v answer) c := by
    intro c
    have silent : ((c.check path).run (.answering v answer)).events.filterMap Event.item? = [] :=
      (Checker.check_run located).printed_eq_nil
    rw [block, List.filterMap_append, silent, List.filterMap_map]
    simp [Function.comp_def]
  have untold : (checkers.all fun c => (linesOf path (.answering v answer) c).isEmpty) = true ↔
      ∀ c ∈ checkers, ((c.check path).run (.answering v answer)).result = .ok none := by
    simp only [List.all_eq_true, List.isEmpty_iff, linesOf_eq_nil_iff]
  rw [blocks, List.filterMap_append, List.filterMap_flatMap]
  simp only [each, untold]
  split <;> simp

/-! ## Agreement -/

/-- How the diagnostics of some results are told by the watcher, next to how the command shows
them. -/
structure ToldAlike (path : Path) (results : List CheckResult) (shown changed : List Item) :
    Prop where
  /-- The command shows one table with a row for each diagnostic, and their number below it. -/
  shown_eq : shown = [Cli.shownTable (results.flatMap (·.diagnostics)),
    Cli.shownSummary (results.flatMap (·.diagnostics)).length (results.map (·.status))]
  /-- The watcher prints a header for each result, and the diagnostics of the result below it. -/
  changed_eq : changed = results.flatMap (resultLines path)
  /-- The numbers in the headers add up to the one below the table. -/
  counts : (results.map (·.diagnostics.length)).sum = (results.flatMap (·.diagnostics)).length
  /-- A line has the text of its diagnostic exactly if printing finds nothing in it to replace or
  to take out. -/
  verbatim_iff : ∀ d ∈ results.flatMap (·.diagnostics),
    diagnosticLine d = .verbatim (diagnosticText d) ↔ Console.PrintsAsIs (diagnosticText d)
  /-- In a file without colons it shows the column and the severity as they are, -/
  place : ∀ d ∈ results.flatMap (·.diagnostics), ':' ∉ d.file.text.toList →
    diagnosticLine d = .line [⟨"  ".toList ++ Markup.printed d.file.text.toList ++
      shownPlace d ++ Markup.printed d.message.toList, none⟩] .output
  /-- and its line number, too, exactly if it is the name of no emoji. -/
  number_iff : ∀ d ∈ results.flatMap (·.diagnostics),
    shownPlace d = ":".toList ++ (toString d.line).toList ++ ":".toList ++
      (toString d.column).toList ++ ": ".toList ++ d.severity.text.toList ++ ": ".toList ↔
    EmojiTable.emoji? (toString d.line).toList = none

/-- What is seen of checking a changed file (`changed`), next to what the command that checks a
file shows of it (`shown`). -/
structure AsChecked (path : Path) (w : World) (checkers : List Checker) (shown : Outcome Nat)
    (changed : Outcome Unit) : Prop where
  /-- The watcher comes to its end, and each checker is run. -/
  done : changed.result = .ok ()
  starts_eq : changed.starts = checkers.flatMap fun c => ((c.check path).run w).starts
  /-- The command starts the beginning of that. -/
  starts_prefix : shown.starts <+: changed.starts
  /-- A check only fails because an executable could not be run. -/
  launch : ∀ c ∈ checkers, ∀ e, ((c.check path).run w).result = .error e →
    ∃ reason, e = .launch c.settings.executable reason
  /-- Each checker has its lines, in order: one if its program could not be run, a header and the
  diagnostics if there is a result, and none else. -/
  lines : changed.printed = checkers.flatMap (linesOf path w) ++
    if ∀ c ∈ checkers, ((c.check path).run w).result = .ok none then [nothingLine path] else []
  failed : ∀ c ∈ checkers, ∀ e, ((c.check path).run w).result = .error e →
    linesOf path w c = [Cli.launchLine e]
  reported : ∀ c ∈ checkers, ∀ result, ((c.check path).run w).result = .ok (some result) →
    linesOf path w c = resultLines path result
  silent : ∀ c ∈ checkers, ((c.check path).run w).result = .ok none → linesOf path w c = []
  /-- The line that there is nothing to check is printed exactly if no checker has any. -/
  nothing_iff : nothingLine path ∈ changed.printed ↔
    ∀ c ∈ checkers, ((c.check path).run w).result = .ok none
  /-- If every program could be run, both start the same programs, -/
  run_starts : AllRun path w checkers → shown.starts = changed.starts
  /-- both say that there is nothing to check, or neither does, -/
  run_nothing : AllRun path w checkers →
    (changed.printed = [nothingLine path] ↔ shown.printed = [Cli.nothingToCheck]) ∧
      (nothingLine path ∈ changed.printed ↔ shown.printed = [Cli.nothingToCheck])
  /-- and else tell the same results. -/
  run_told : AllRun path w checkers → shown.printed ≠ [Cli.nothingToCheck] →
    ToldAlike path (checkers.filterMap (result? path w)) shown.printed changed.printed
  /-- If some program could not be run, the command shows only the first such failure, and the
  watcher never says that there is nothing to check. -/
  first : ∀ e, FirstFailure path w checkers e →
    shown.result = .ok 1 ∧ shown.printed = [Cli.launchLine e]
  never : ¬ AllRun path w checkers → nothingLine path ∉ changed.printed

section World

variable {v : View} {answer : Start → Answer} {found : Option Workspace}

theorem ToldAlike.of_results {results : List CheckResult} {shown changed : List Item}
    (shown_eq : shown = [Cli.shownTable (results.flatMap (·.diagnostics)),
      Cli.shownSummary (results.flatMap (·.diagnostics)).length (results.map (·.status))])
    (changed_eq : changed = results.flatMap (resultLines path)) :
    ToldAlike path results shown changed where
  shown_eq := shown_eq
  changed_eq := changed_eq
  counts := by
    rw [List.length_flatMap]
  verbatim_iff := fun d _ => diagnosticLine_eq_verbatim_iff d
  place := fun _ _ noColon => diagnosticLine_eq noColon
  number_iff := fun _ _ => shownPlace_eq_iff

/-- The line that there is nothing to check is printed exactly if no checker has anything to
check, and then it is the only one. -/
theorem nothing_printed_iff (answer : Start → Answer) (located : v.workspace? path = .ok found)
    (checkers : List Checker) :
    (nothingLine path ∈ (blocks path (.answering v answer) checkers).filterMap Event.item? ↔
        ∀ c ∈ checkers, ((c.check path).run (.answering v answer)).result = .ok none) ∧
      ((blocks path (.answering v answer) checkers).filterMap Event.item? = [nothingLine path] ↔
        ∀ c ∈ checkers, ((c.check path).run (.answering v answer)).result = .ok none) := by
  have others := nothingLine_notMem_linesOf path (.answering v answer) checkers
  rw [printed_blocks answer located]
  by_cases none : ∀ c ∈ checkers, ((c.check path).run (.answering v answer)).result = .ok none
  · have untold : checkers.flatMap (linesOf path (.answering v answer)) = [] :=
      List.flatMap_eq_nil_iff.mpr fun c member => linesOf_eq_nil_iff.mpr (none c member)
    rw [if_pos none, untold]
    exact ⟨iff_of_true (.head _) none, iff_of_true rfl none⟩
  · rw [if_neg none, List.append_nil]
    refine ⟨iff_of_false others none, iff_of_false (fun same => others ?_) none⟩
    rw [same]
    exact .head _

/-- **A series is told as it is shown**: the command shows the first failure, or that there is
nothing to check, or one table (`shown`). -/
theorem AsChecked.of_series {results : Except Failure (List (Checker × CheckResult))}
    {shown : Outcome Nat} (located : v.workspace? path = .ok found)
    (series : Series path (.answering v answer) checkers results events)
    (starts : shown.starts = events.filterMap Event.start?)
    (failing : ∀ e, results = .error e →
      shown.result = .ok 1 ∧ shown.printed = [Cli.launchLine e])
    (nothing : results = .ok [] → shown.printed = [Cli.nothingToCheck])
    (tabled : ∀ found, results = .ok found → found ≠ [] →
      shown.printed = [Cli.shownTable ((found.map (·.2)).flatMap (·.diagnostics)),
        Cli.shownSummary ((found.map (·.2)).flatMap (·.diagnostics)).length
          ((found.map (·.2)).map (·.status))]) :
    AsChecked path (.answering v answer) checkers shown
      ⟨.ok (), v.files, blocks path (.answering v answer) checkers⟩ := by
  have changed_starts := starts_blocks path (.answering v answer) checkers
  obtain ⟨mem_iff, sole_iff⟩ := nothing_printed_iff answer located checkers
  -- with results, the command shows a table of two items and not one line
  have shown_iff : ∀ found, results = .ok found → (shown.printed = [Cli.nothingToCheck] ↔
      ∀ c ∈ checkers, ((c.check path).run (.answering v answer)).result = .ok none) := by
    rintro found rfl
    rw [← series.results_eq_nil_iff]
    by_cases none : found = []
    · subst none
      exact iff_of_true (nothing rfl) rfl
    · refine iff_of_false (fun same => ?_) none
      rw [tabled found rfl none] at same
      cases same
  exact
    { done := rfl
      starts_eq := changed_starts
      starts_prefix := by
        rw [starts, Outcome.starts, changed_starts]
        exact series.starts_prefix
      launch := by
        intro c _ e failed
        have run : Checker.CheckRun c v answer path found (c.check path (.answering v answer)) :=
          Checker.check_run located
        rw [Action.run] at failed
        rcases run.ok_or_launch with ⟨result, events, ran⟩ | ⟨reason, events, ran⟩
        · rw [ran] at failed
          cases failed
        · rw [ran] at failed
          exact ⟨reason, (Except.error.inj failed).symm⟩
      lines := printed_blocks answer located checkers
      failed := fun c _ e failed => by rw [linesOf, failed, told]
      reported := fun c _ result ran => by rw [linesOf, ran]; rfl
      silent := fun c _ none => linesOf_eq_nil_iff.mpr none
      nothing_iff := mem_iff
      run_starts := by
        intro all
        obtain ⟨found, rfl⟩ := series.ok_iff.mpr all
        rw [starts, series.starts_eq, Outcome.starts, changed_starts]
      run_nothing := by
        intro all
        obtain ⟨found, ok⟩ := series.ok_iff.mpr all
        rw [shown_iff found ok]
        exact ⟨sole_iff, mem_iff⟩
      run_told := by
        intro all some
        obtain ⟨found, rfl⟩ := series.ok_iff.mpr all
        have none : found ≠ [] := fun none => some (nothing (by rw [none]))
        have told := printed_blocks answer located checkers
        rw [if_neg fun idle => some ((shown_iff found rfl).mpr idle), List.append_nil,
          linesOf_results all] at told
        rw [← series.results_eq] at told ⊢
        exact .of_results (tabled found rfl none) told
      first := fun e failed => failing e (series.failure_iff.mp failed)
      never := by
        intro failing member
        exact failing fun c isChecker => ⟨none, mem_iff.mp member c isChecker⟩ }

/-- **A changed file is told what a check of it shows.** In a world whose programs answer by
command and directory alone, for any checkers and a path that can be searched for a workspace. -/
theorem asChecked (r : Registry) (v : View) (answer : Start → Answer) (path : Path)
    (found : Option Workspace) (located : v.workspace? path = .ok found) :
    ∃ checkers, r.applicable v path = .ok checkers ∧ checkers.Sublist r.checkers ∧
      AsChecked path (.answering v answer) checkers
        ((Cli.check r path).run (.answering v answer))
        ((checkChanged r [path]).run (.answering v answer)) := by
  obtain ⟨checkers, applicable, order⟩ := r.exists_applicable located
  obtain ⟨results, events, series⟩ :
      ∃ results events, Series path (.answering v answer) checkers results events :=
    Checker.exists_series located checkers
  refine ⟨checkers, applicable, order, ?_⟩
  have silent := series.printed_eq_nil located
  rw [Action.run, Action.run, checkChanged_alone applicable]
  have applicable : r.applicable (World.answering v answer).view path = .ok checkers := applicable
  cases results with
  | error e =>
    obtain ⟨executable, reason, rfl⟩ := series.launch_of_error
    rw [Cli.check_failed applicable series]
    refine .of_series located series ?starts ?failing ?nothing ?tabled
    case starts => simp [Outcome.starts]
    case failing =>
      rintro _ ⟨⟩
      exact ⟨rfl, by simp [Outcome.printed, silent]⟩
    case nothing => rintro ⟨⟩
    case tabled => rintro _ ⟨⟩
  | ok results =>
    by_cases none : results = []
    · subst none
      rw [Cli.check_nothing applicable series]
      refine .of_series located series ?starts ?failing ?nothing ?tabled
      case starts => simp [Outcome.starts]
      case failing => rintro _ ⟨⟩
      case nothing => exact fun _ => by simp [Outcome.printed, silent]
      case tabled =>
        rintro _ ⟨⟩ some
        exact absurd rfl some
    · rw [Cli.check_told applicable series none]
      refine .of_series located series ?starts ?failing ?nothing ?tabled
      case starts => simp [Outcome.starts]
      case failing => rintro _ ⟨⟩
      case nothing => exact fun same => absurd (Except.ok.inj same) none
      case tabled =>
        rintro _ ⟨⟩ _
        simp [Outcome.printed, silent]

end World

end Table

/-- In a marked folder, with two checkers: both are asked and built with, and each of them has a
header and its diagnostic told, which the command shows in the two rows of its table. -/
theorem asChecked_pair :
    Checker.sampleView.workspace? (.ofText "/ws/lib.rs") = .ok (some ⟨.ofText "/ws"⟩) ∧
      ∃ checkers, Cli.pairRegistry.applicable Checker.sampleView (.ofText "/ws/lib.rs") =
          .ok checkers ∧ checkers.Sublist Cli.pairRegistry.checkers ∧
        AsChecked (.ofText "/ws/lib.rs") (.answering Checker.sampleView Cli.numberedAnswer) checkers
          ((Cli.check Cli.pairRegistry (.ofText "/ws/lib.rs")).run
            (.answering Checker.sampleView Cli.numberedAnswer))
          ((checkChanged Cli.pairRegistry [.ofText "/ws/lib.rs"]).run
            (.answering Checker.sampleView Cli.numberedAnswer)) ∧
        ((checkChanged Cli.pairRegistry [.ofText "/ws/lib.rs"]).run
          (.answering Checker.sampleView Cli.numberedAnswer)).starts.map (·.command.take 2) =
            [["bazel", "query"], ["bazel", "build"], ["blaze", "query"], ["blaze", "build"]] ∧
        ((checkChanged Cli.pairRegistry [.ofText "/ws/lib.rs"]).run
          (.answering Checker.sampleView Cli.numberedAnswer)).printed =
            [headerLine (.ofText "/ws/lib.rs") 1, diagnosticLine (Cli.numbered "/ws/lib.rs"),
              headerLine (.ofText "/ws/lib.rs") 1, diagnosticLine (Cli.numbered "/ws/lib.rs")] ∧
        ((Cli.check Cli.pairRegistry (.ofText "/ws/lib.rs")).run
          (.answering Checker.sampleView Cli.numberedAnswer)).printed =
            [Cli.shownTable [Cli.numbered "/ws/lib.rs", Cli.numbered "/ws/lib.rs"],
              .verbatim "(2 diagnostics, build exit status 1, 1)"] := by
  have located : Checker.sampleView.workspace? (.ofText "/ws/lib.rs") =
      .ok (some ⟨.ofText "/ws"⟩) := by decide +kernel
  obtain ⟨checkers, applicable, order, same⟩ :=
    asChecked Cli.pairRegistry Checker.sampleView Cli.numberedAnswer _ _ located
  refine ⟨located, checkers, applicable, order, same, ?starts, ?told, by decide +kernel⟩
  case starts =>
    rw [checkChanged_singleton]
    decide +kernel
  case told =>
    rw [checkChanged_singleton]
    decide +kernel

/-- The table shows the line of the diagnostic, and the line that is told of it does not. -/
theorem told_without_line :
    ((Cli.check Checker.soleRegistry (.ofText "/ws/lib.rs")).run
        (.answering Checker.sampleView Cli.numberedAnswer)).printed =
      [.table ["file", "line", "column", "severity", "message"]
        [[[⟨"/ws/lib.rs".toList, none⟩], [⟨"100".toList, none⟩], [⟨"5".toList, none⟩],
          [⟨"error".toList, some "red"⟩], [⟨"m".toList, none⟩]]],
        .verbatim "(1 diagnostics, build exit status 1)"] ∧
    ((checkChanged Checker.soleRegistry [.ofText "/ws/lib.rs"]).run
        (.answering Checker.sampleView Cli.numberedAnswer)).printed =
      [.line [⟨"/ws/lib.rs".toList, some "bold"⟩, ⟨": 1 diagnostic(s)".toList, none⟩] .output,
        .verbatim "  /ws/lib.rs💯5: error: m"] := by
  rw [checkChanged_singleton]
  decide +kernel

end Watch

end OwnerBuild
