/-
# OwnerBuild.Proofs.Cli.SameCheck -- a file is checked the same way by command and by tool

The command that checks a file and the tool of the server that does go over the checkers
that apply, each with a loop of its own. The command collects results and tells them when all
checks are done; the tool gathers diagnostics as it goes and drops them at the first failure.
Both follow the same series of checks (`gather_run` here, `check_failed` and its siblings
for the command). So they start the same programs in the same order, they fail on the same
check, and the table of the one has a row for each diagnostic that the other returns
(`sameCheck`).

Each row shows the line, the column and the severity of its diagnostic. The file is shown as every
text from outside is in a cell (`CellOf`): in one piece, and as it is exactly if no emoji code is
found in it and escaping and printing change nothing. So a diagnostic in a folder with the name of
an emoji is returned with that folder and shown with another one (`row_emoji_folder`).
-/

import OwnerBuild.Proofs.Checker.Trace
import OwnerBuild.Proofs.Cli.Cells
import OwnerBuild.Tools

namespace OwnerBuild

/-! ## The loop of the tool -/

namespace Tools

/-- What the tool makes of a series, with what it has gathered before. -/
def answerOf (before : List Diagnostic) :
    Except Failure (List (Checker × CheckResult)) → Except String (List Diagnostic)
  | .error e => .error (errorText e)
  | .ok found => .ok (before ++ (found.map (·.2)).flatMap (·.diagnostics))

/-- A result in front is one more list that was gathered before the others. -/
theorem answerOf_checked (before : List Diagnostic) (c : Checker) (result : CheckResult)
    (results : Except Failure (List (Checker × CheckResult))) :
    answerOf before (results.map ((c, result) :: ·)) =
      answerOf (before ++ result.diagnostics) results := by
  cases results with
  | error e => rfl
  | ok found => simp [answerOf, Except.map]

variable {path : Path} {w : World} {checkers : List Checker} {events : List Event}
  {results : Except Failure (List (Checker × CheckResult))}

/-- **Gathering follows the series of the checks.** -/
theorem gather_run (series : Checker.Series path w checkers results events)
    (before : List Diagnostic) :
    gather path before checkers w = ⟨.ok (answerOf before results), w.view.files, events⟩ := by
  induction series generalizing before with
  | done =>
    rw [answerOf, List.map_nil, List.flatMap_nil, List.append_nil]
    rfl
  | @failed c rest executable reason events check =>
    rw [gather]
    exact Action.bind_return (Action.orLaunchFailure_launch check) rfl
  | @idle c rest events later results check others ih =>
    rw [gather, Action.bind_undisturbed (Action.orLaunchFailure_ok check)]
    dsimp only
    rw [ih]
  | @checked c rest result events later results check others ih =>
    rw [gather, Action.bind_undisturbed (Action.orLaunchFailure_ok check), answerOf_checked]
    dsimp only
    rw [ih]

theorem Server.checkFile_run {s : Server} (applicable : s.registry.applicable w.view path =
    .ok checkers) (series : Checker.Series path w checkers results events) :
    s.checkFile path w = ⟨.ok (answerOf [] results), w.view.files, events⟩ := by
  rw [Server.checkFile, Action.bind_undisturbed (Registry.applicableTo_run applicable),
    gather_run series]
  rfl

end Tools

/-! ## Agreement -/

open Markup (EmojiTable)

namespace Console

/-- Whether an item is a table. -/
def Item.isTable : Item → Bool
  | .table .. => true
  | .line .. => false

end Console

namespace Cli

open Checker (FirstFailure Series result?)
open Console (Item)
open Tools (errorText answerOf)

/-- What the command (`told`) makes of the checks when the tool returns a list. -/
structure Listed [EmojiTable] (path : Path) (w : World) (checkers : List Checker) (ds : List Diagnostic)
    (told : Outcome Nat) : Prop where
  /-- The list holds the diagnostics of all results, in the order of registration. -/
  gathered : ds = (checkers.filterMap (result? path w)).flatMap (·.diagnostics)
  /-- The command says that there is nothing to check exactly if no check had a result. -/
  nothing_iff : (told.result = .ok 0 ∧ told.printed = [nothingToCheck]) ↔
    ∀ c ∈ checkers, ((c.check path).run w).result = .ok none
  /-- Then the list is empty. -/
  nothing : (∀ c ∈ checkers, ((c.check path).run w).result = .ok none) → ds = []
  /-- Otherwise it prints a table with one row for each diagnostic, and below it their number
  and the status of each result. -/
  table : (¬ ∀ c ∈ checkers, ((c.check path).run w).result = .ok none) →
    told.printed = [shownTable ds,
      shownSummary ds.length ((checkers.filterMap (result? path w)).map (·.status))]
  /-- A row shows the line, the column and the severity of its diagnostic as they are, and the
  file as texts from outside are shown in a cell. -/
  rows : ∀ d ∈ ds, ShowsDiagnostic d (shownRow d)
  /-- The command exits with 1 exactly if some diagnostic is an error. -/
  bad_iff : told.result = .ok 1 ↔ ∃ d ∈ ds, d.severity = .error
  /-- Otherwise it exits with 0. -/
  good_iff : told.result = .ok 0 ↔ ¬ ∃ d ∈ ds, d.severity = .error

/-- What the command that checks a file (`told`) and the tool that does (`answered`) have to do
with each other and with the checks of the checkers that apply. -/
structure SameCheck [EmojiTable] (path : Path) (w : World) (checkers : List Checker) (told : Outcome Nat)
    (answered : Outcome (Except String (List Diagnostic))) : Prop where
  /-- Both start the same programs in the same order. -/
  starts_eq : told.starts = answered.starts
  /-- The tool returns a text or a list. -/
  answers : (∃ text, answered.result = .ok (.error text)) ∨
    ∃ ds, answered.result = .ok (.ok ds)
  /-- A check only fails because an executable could not be run. -/
  launch : ∀ e, FirstFailure path w checkers e → ∃ executable reason, e = .launch executable reason
  /-- The tool returns the text of the first failure, if there is one. -/
  error_iff : ∀ text, answered.result = .ok (.error text) ↔
    ∃ e, FirstFailure path w checkers e ∧ text = errorText e
  /-- For the same failure the command prints one line and exits with 1. -/
  error_told : ∀ e, FirstFailure path w checkers e →
    told.result = .ok 1 ∧ told.printed = [launchLine e]
  /-- Only then it exits with 1 and without a table. -/
  untabled_iff : (told.result = .ok 1 ∧ ∀ i ∈ told.printed, i.isTable = false) ↔
    ∃ text, answered.result = .ok (.error text)
  /-- Otherwise the command tells the list that the tool returns. -/
  listed : ∀ ds, answered.result = .ok (.ok ds) → Listed path w checkers ds told

theorem any_hasErrors_iff (results : List CheckResult) :
    results.any (·.hasErrors) = true ↔
      ∃ d ∈ results.flatMap (·.diagnostics), d.severity = .error := by
  simp only [List.any_eq_true, CheckResult.hasErrors, Diagnostic.anyError, decide_eq_true_eq,
    List.mem_flatMap]
  constructor
  · rintro ⟨result, member, d, inside, bad⟩
    exact ⟨d, ⟨result, member, inside⟩, bad⟩
  · rintro ⟨d, ⟨result, member, inside⟩, bad⟩
    exact ⟨result, member, d, inside, bad⟩

section Ways

variable [EmojiTable] {r : Registry} {path : Path} {w : World} {checkers : List Checker} {events : List Event}

/-- Without a result. -/
theorem Listed.of_nothing (silent : events.filterMap Event.item? = [])
    (series : Series path w checkers (.ok []) events) :
    Listed path w checkers []
      ⟨.ok 0, w.view.files, events ++ [.printed nothingToCheck]⟩ := by
  have none := series.results_eq_nil_iff.mp rfl
  have results := series.results_eq
  exact
    { gathered := by rw [← results]; rfl
      nothing_iff := by simpa [Outcome.printed, silent] using none
      nothing := fun _ => rfl
      table := fun some => absurd none some
      rows := by simp
      bad_iff := by simp
      good_iff := by simp }

/-- With results. -/
theorem Listed.of_results {found : List (Checker × CheckResult)}
    (silent : events.filterMap Event.item? = [])
    (series : Series path w checkers (.ok found) events) (some : found ≠ []) :
    Listed path w checkers ((found.map (·.2)).flatMap (·.diagnostics))
      ⟨.ok (exitStatus ((found.map (·.2)).any (·.hasErrors))), w.view.files,
        events ++ [.printed (shownTable ((found.map (·.2)).flatMap (·.diagnostics))),
          .printed (shownSummary ((found.map (·.2)).flatMap (·.diagnostics)).length
            ((found.map (·.2)).map (·.status)))]⟩ := by
  have something : ¬ ∀ c ∈ checkers, ((c.check path).run w).result = .ok none :=
    fun none => some (series.results_eq_nil_iff.mpr none)
  have results := series.results_eq
  have bad := any_hasErrors_iff (found.map (·.2))
  exact
    { gathered := by rw [results]
      nothing_iff := by
        -- two items are printed and not one
        refine iff_of_false ?_ something
        rintro ⟨-, printed⟩
        simp [Outcome.printed, silent] at printed
      nothing := fun none => absurd none something
      table := fun _ => by simp [Outcome.printed, silent, results]
      rows := fun d _ => showsDiagnostic_shownRow d
      bad_iff := by
        rw [← bad]
        cases (found.map (·.2)).any (·.hasErrors) <;> simp [exitStatus]
      good_iff := by
        rw [← bad]
        cases (found.map (·.2)).any (·.hasErrors) <;> simp [exitStatus] }

/-- Behind a failure the tool returns its text and the command prints its line. -/
theorem SameCheck.of_failure {executable reason : String}
    (silent : events.filterMap Event.item? = [])
    (series : Series path w checkers (.error (.launch executable reason)) events) :
    SameCheck path w checkers
      ⟨.ok 1, w.view.files, events ++ [.printed (launchLine (.launch executable reason))]⟩
      ⟨.ok (answerOf [] (.error (.launch executable reason))), w.view.files, events⟩ := by
  have first : ∀ e, FirstFailure path w checkers e ↔ .launch executable reason = e := by
    intro e
    rw [series.failure_iff]
    simp
  exact
    { starts_eq := by simp [Outcome.starts]
      answers := .inl ⟨_, rfl⟩
      launch := fun e failed => ⟨executable, reason, ((first e).mp failed).symm⟩
      error_iff := by simp [first, answerOf, eq_comm]
      error_told := by
        intro e failed
        obtain rfl := (first e).mp failed
        exact ⟨rfl, by simp [Outcome.printed, silent]⟩
      untabled_iff := by
        simp [Outcome.printed, silent, answerOf, launchLine, Item.markup, Item.isTable]
      listed := by simp [answerOf] }

/-- Without a failure the tool returns a list and the command tells it. -/
theorem SameCheck.of_listed {told : Outcome Nat} {ds : List Diagnostic}
    {found : List (Checker × CheckResult)} (starts : told.starts = events.filterMap Event.start?)
    (series : Series path w checkers (.ok found) events) (listed : Listed path w checkers ds told) :
    SameCheck path w checkers told ⟨.ok (.ok ds), w.view.files, events⟩ := by
  have fine : ∀ e, ¬ FirstFailure path w checkers e := by
    intro e
    rw [series.failure_iff]
    simp
  exact
    { starts_eq := starts
      answers := .inr ⟨ds, rfl⟩
      launch := fun e failed => absurd failed (fine e)
      error_iff := by simp [fine]
      error_told := fun e failed => absurd failed (fine e)
      untabled_iff := by
        refine iff_of_false ?_ (by simp)
        rintro ⟨bad, untabled⟩
        -- without a table there was nothing to check, and that is no reason to exit with 1
        by_cases none : ∀ c ∈ checkers, ((c.check path).run w).result = .ok none
        · rw [(listed.nothing_iff.mpr none).1] at bad
          cases bad
        · have tabled := untabled (shownTable ds) (by rw [listed.table none]; simp)
          cases tabled
      listed := by
        intro ds' same
        obtain rfl := Except.ok.inj (Except.ok.inj same)
        exact listed }

/-- A series of checks that prints nothing is told and answered alike. -/
theorem SameCheck.of_series {s : Tools.Server}
    {results : Except Failure (List (Checker × CheckResult))}
    (applicable : s.registry.applicable w.view path = .ok checkers)
    (series : Series path w checkers results events)
    (silent : events.filterMap Event.item? = []) :
    SameCheck path w checkers (check s.registry path w) (s.checkFile path w) := by
  rw [Tools.Server.checkFile_run applicable series]
  cases results with
  | error e =>
    obtain ⟨executable, reason, rfl⟩ := series.launch_of_error
    rw [check_failed applicable series]
    exact .of_failure silent series
  | ok found =>
    by_cases none : found = []
    · subst none
      rw [check_nothing applicable series]
      exact .of_listed (by simp [Outcome.starts]) series (.of_nothing silent series)
    · rw [check_told applicable series none]
      exact .of_listed (by simp [Outcome.starts]) series (.of_results silent series none)

end Ways

/-- **Command and tool check a file in the same way.** In a world whose programs answer by
command and directory alone, for any checkers with the standard one among them and a path that
can be searched for a workspace. -/
theorem sameCheck [EmojiTable] (r : Registry) (v : View) (answer : Start → Answer) (path : Path)
    (found : Option Workspace) (registered : Checker.standardName ∈ r.names)
    (located : v.workspace? path = .ok found) :
    ∃ s checkers, Tools.Server.create r = .ok s ∧ r.applicable v path = .ok checkers ∧
      checkers.Sublist r.checkers ∧
      SameCheck path (.answering v answer) checkers ((check r path).run (.answering v answer))
        ((s.checkFile path).run (.answering v answer)) := by
  obtain ⟨c, get⟩ := Registry.exists_get registered
  obtain ⟨checkers, applicable, order⟩ := r.exists_applicable located
  have created : Tools.Server.create r = .ok ⟨r, c⟩ := by
    rw [Tools.Server.create, get]
    rfl
  obtain ⟨results, events, series⟩ :
      ∃ results events, Series path (.answering v answer) checkers results events :=
    Checker.exists_series located checkers
  have same : SameCheck path (.answering v answer) checkers (check r path (.answering v answer))
      (Tools.Server.checkFile ⟨r, c⟩ path (.answering v answer)) :=
    .of_series (s := ⟨r, c⟩) applicable series (series.printed_eq_nil located)
  exact ⟨⟨r, c⟩, checkers, created, applicable, order, same⟩

/-- The standard checker, and another one with a build tool of its own. -/
def pairRegistry : Registry :=
  ⟨[⟨Checker.standardName, {}, .rustcJson⟩, ⟨"other", ⟨"blaze", []⟩, .rustcJson⟩],
    by decide⟩

/-- What a build writes about line 100 of a file. -/
def numberedRecord : String :=
  "\x7b\"message\":\"m\",\"level\":\"error\",\"spans\":[\x7b\"file_name\":\"lib.rs\"," ++
    "\"line_start\":100,\"line_end\":100,\"column_start\":5,\"column_end\":8," ++
    "\"is_primary\":true\x7d]\x7d"

/-- A build tool that knows one owner and builds it with this to say. -/
def numberedAnswer (s : Start) : Answer :=
  if s.command[1]? = some "query" then .finished (Text.encode "//:lib\n") [] 0
  else .finished [] (Text.encode numberedRecord) 1

/-- The diagnostic of the record, in a file. -/
def numbered (file : String) : Diagnostic :=
  { file := .ofText file, line := 100, column := 5, severity := .error, message := "m"
    endLine := some 100, endColumn := some 8 }

/-- In a marked folder, with two checkers: each of them asks and builds, and the table has the
two rows that are returned. -/
theorem sameCheck_pair :
    Checker.standardName ∈ pairRegistry.names ∧
      Checker.sampleView.workspace? (.ofText "/ws/lib.rs") = .ok (some ⟨.ofText "/ws"⟩) ∧
      ∃ s checkers, Tools.Server.create pairRegistry = .ok s ∧
        pairRegistry.applicable Checker.sampleView (.ofText "/ws/lib.rs") = .ok checkers ∧
        checkers.Sublist pairRegistry.checkers ∧
        SameCheck (.ofText "/ws/lib.rs") (.answering Checker.sampleView numberedAnswer)
          checkers
          ((check pairRegistry (.ofText "/ws/lib.rs")).run
            (.answering Checker.sampleView numberedAnswer))
          ((s.checkFile (.ofText "/ws/lib.rs")).run
            (.answering Checker.sampleView numberedAnswer)) ∧
        ((s.checkFile (.ofText "/ws/lib.rs")).run
          (.answering Checker.sampleView numberedAnswer)).result =
            .ok (.ok [numbered "/ws/lib.rs", numbered "/ws/lib.rs"]) ∧
        ((check pairRegistry (.ofText "/ws/lib.rs")).run
          (.answering Checker.sampleView numberedAnswer)).starts.map (·.command.take 2) =
            [["bazel", "query"], ["bazel", "build"], ["blaze", "query"], ["blaze", "build"]] ∧
        ((check pairRegistry (.ofText "/ws/lib.rs")).run
          (.answering Checker.sampleView numberedAnswer)).printed =
            [shownTable [numbered "/ws/lib.rs", numbered "/ws/lib.rs"],
              .verbatim "(2 diagnostics, build exit status 1, 1)"] := by
  have registered : Checker.standardName ∈ pairRegistry.names := by decide
  have located : Checker.sampleView.workspace? (.ofText "/ws/lib.rs") =
      .ok (some ⟨.ofText "/ws"⟩) := by decide +kernel
  obtain ⟨s, checkers, created, applicable, order, same⟩ :=
    sameCheck pairRegistry Checker.sampleView numberedAnswer _ _ registered located
  obtain rfl : _ = s := Except.ok.inj created
  exact ⟨registered, located, _, checkers, created, applicable, order, same, by decide +kernel,
    by decide +kernel, by decide +kernel⟩

/-- **The file of a row is not the file of the diagnostic**: in a folder with the name of an emoji
the tool returns the one and the command shows another. -/
theorem row_emoji_folder :
    ((Tools.Server.checkFile ⟨Checker.soleRegistry, ⟨Checker.standardName, {}, .rustcJson⟩⟩
        (.ofText "/:100:/lib.rs")).run (.answering Checker.emojiView numberedAnswer)).result =
      .ok (.ok [numbered "/:100:/lib.rs"]) ∧
    ((check Checker.soleRegistry (.ofText "/:100:/lib.rs")).run
        (.answering Checker.emojiView numberedAnswer)).printed =
      [.table ["file", "line", "column", "severity", "message"]
        [[[⟨"/💯/lib.rs".toList, none⟩], [⟨"100".toList, none⟩], [⟨"5".toList, none⟩],
          [⟨"error".toList, some "red"⟩], [⟨"m".toList, none⟩]]],
        .verbatim "(1 diagnostics, build exit status 1)"] ∧
    "/💯/lib.rs".toList ≠ (numbered "/:100:/lib.rs").file.text.toList := by
  decide +kernel

end Cli

end OwnerBuild
