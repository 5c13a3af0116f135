/-
# OwnerBuild.Proofs.Checker.Trace -- the processes of a check

What a check starts, and what it makes of the answers. `ProcessTrace` says it of a
list of starts and a result: nothing is started, or the query alone, or the query
and one build; where the starts are run and what they say; and which of the three
exits is taken, a failure to launch, nothing to check, or a result that reports the
build that was started. Each exit is stated with the exact condition on the starts
and their answers, so that the exits exclude each other and leave no fourth.

The world is one in which programs answer by command and directory alone, and the
path is one that can be searched for a workspace; whether it lies in one is left open.
-/

import OwnerBuild.Proofs.Checker.Runs
import OwnerBuild.Proofs.Text.Lines

namespace OwnerBuild

/-! ## What a query says -/

/-- Whether some line of a text shows anything. -/
def Text.HasVisibleLine (s : List Char) : Prop := ∃ line ∈ lines s, ∃ c ∈ line, isBlank c = false

/-- A query names an owner exactly when a line of what it wrote shows anything. -/
theorem ownersIn_ne_nil_iff {output : List UInt8} :
    ownersIn output ≠ [] ↔ Text.HasVisibleLine (writtenText output) := by
  have trimmed : ∀ line, Text.trim line ≠ [] ↔ ∃ c ∈ line, Text.isBlank c = false := by
    intro line
    rw [Ne, Text.trim_eq_nil_iff]
    simp
  simp only [ownersIn, Query.labels, ne_eq, List.map_eq_nil_iff, List.filter_eq_nil_iff,
    List.mem_map, bne_iff_ne, not_forall, Text.HasVisibleLine]
  constructor
  · rintro ⟨_, ⟨line, member, rfl⟩, visible⟩
    exact ⟨line, member, (trimmed line).mp (not_not.mp visible)⟩
  · rintro ⟨line, member, visible⟩
    exact ⟨_, ⟨line, member, rfl⟩, not_not.mpr ((trimmed line).mpr visible)⟩

/-- The targets of a build command come last in it. -/
theorem Build.suffix_of_command {settings : Settings} {format : Format}
    {targets command : List String} (h : Build.command settings format targets = .ok command) :
    targets <:+ command := by
  unfold Build.command at h
  split at h
  · cases h
  · obtain rfl := Except.ok.inj h
    exact ⟨settings.executable :: "build" :: quietFlags ++ format.buildFlag :: settings.buildFlags,
      by simp⟩

namespace Checker

/-! ## Traces -/

/-- What the starts of a check and its result have to do with each other, and with what
was found around the path. -/
structure ProcessTrace (c : Checker) (v : View) (answer : Start → Answer) (path : Path)
    (found : Option Workspace) (starts : List Start)
    (result : Except Failure (Option CheckResult)) : Prop where
  /-- Nothing is started, or the query, or the query and then one build. -/
  shape : starts = [] ∨ (∃ query, starts = [query]) ∨ ∃ query build, starts = [query, build]
  /-- Nothing is started exactly without a workspace or when the path's name in it holds
  both quotation marks. -/
  nothing_iff : starts = [] ↔ found = none ∨ ∃ w name, found = some w ∧
    v.relative w path = .ok name ∧ '"' ∈ name.toList ∧ '\'' ∈ name.toList
  /-- A build is started exactly when the query ran and a line of its output shows
  anything. -/
  build_iff : (∃ query build, starts = [query, build]) ↔ ∃ query output errors status,
    starts.head? = some query ∧ answer query = .finished output errors status ∧
      Text.HasVisibleLine (writtenText output)
  /-- Every start is run in the root of the workspace. -/
  directory : ∀ s ∈ starts, ∃ w, found = some w ∧ s.directory = w.root
  /-- The first start asks for the owners of the path under its name in the workspace. -/
  query : ∀ s, starts.head? = some s → ∃ w name, found = some w ∧
    v.relative w path = .ok name ∧ Query.command c.settings name = .ok s.command
  /-- The second start builds what the first one said. -/
  build : ∀ query build, starts = [query, build] → ∃ output errors status,
    answer query = .finished output errors status ∧
      Build.command c.settings c.format (ownersIn output) = .ok build.command
  /-- The check fails exactly when the last start was refused, and says which executable
  could not be run and why. -/
  failure_iff : ∀ e, result = .error e ↔ ∃ s refusal, starts.getLast? = some s ∧
    answer s = .refused refusal ∧ e = .launch c.settings.executable refusal.text
  /-- There is nothing to check exactly when no build was started and nothing refused. -/
  nothing_to_check_iff : result = .ok none ↔
    starts.length < 2 ∧ ∀ s ∈ starts, ∀ refusal, answer s ≠ .refused refusal
  /-- There is a result exactly when a build has run. -/
  result_iff : (∃ r, result = .ok (some r)) ↔ ∃ query build output errors status,
    starts = [query, build] ∧ answer build = .finished output errors status
  /-- A result reports the build that was started, where it was run and what it built. -/
  report : ∀ r, result = .ok (some r) → ∃ query build output errors status,
    starts = [query, build] ∧ answer query = .finished output errors status ∧
      r.command = build.command ∧ r.workspace.root = build.directory ∧
      r.targets = ownersIn output ∧ r.targets <:+ r.command

variable {c : Checker} {v : View} {answer : Start → Answer} {path : Path}
  {found : Option Workspace}

/-- Without a query there is nothing to check. -/
theorem ProcessTrace.of_nothing (h : found = none ∨ ∃ w name, found = some w ∧
    v.relative w path = .ok name ∧ Query.quoteWord? name.toList = none) :
    ProcessTrace c v answer path found [] (.ok none) where
  shape := .inl rfl
  nothing_iff := by simpa [Query.quoteWord?_eq_none_iff] using h
  build_iff := by simp
  directory := by simp
  query := by simp
  build := by simp
  failure_iff := by simp
  nothing_to_check_iff := by simp
  result_iff := by simp
  report := by simp

section Asked

variable {w : Workspace} {name : String} {query : List String}

/-- A path that is asked for is one that can be quoted. -/
theorem quotable_of_command (asked : Query.command c.settings name = .ok query) :
    ¬ ('"' ∈ name.toList ∧ '\'' ∈ name.toList) := by
  intro both
  have refused : Query.command c.settings name = .error ⟨name⟩ :=
    Query.command_eq_error_iff.mpr ⟨Query.quoteWord?_eq_none_iff.mpr both, rfl⟩
  rw [asked] at refused
  cases refused

/-- With the query alone the check ends: it was refused, or it named no owner. -/
theorem ProcessTrace.of_query (named : v.relative w path = .ok name)
    (asked : Query.command c.settings name = .ok query)
    {result : Except Failure (Option CheckResult)}
    (ends : (∃ refusal, answer ⟨query, w.root⟩ = .refused refusal ∧
        result = .error (.launch c.settings.executable refusal.text)) ∨
      (∃ output errors status, answer ⟨query, w.root⟩ = .finished output errors status ∧
        ownersIn output = [] ∧ result = .ok none)) :
    ProcessTrace c v answer path (some w) [⟨query, w.root⟩] result where
  shape := .inr (.inl ⟨_, rfl⟩)
  nothing_iff := by
    have quotable := quotable_of_command asked
    simpa [named] using quotable
  build_iff := by
    -- one start is no build, so nothing that the query wrote may be visible
    rcases ends with ⟨refusal, answered, -⟩ | ⟨output, errors, status, answered, none, -⟩
    · simp [answered]
    · have invisible : ¬ Text.HasVisibleLine (writtenText output) := by
        rw [← ownersIn_ne_nil_iff, none]
        simp
      simp [answered, invisible]
  directory := by simp
  query := by
    intro s first
    obtain rfl : _ = s := by simpa using first
    exact ⟨w, name, rfl, named, asked⟩
  build := by simp
  failure_iff := by
    intro e
    rcases ends with ⟨refusal, answered, rfl⟩ | ⟨output, errors, status, answered, -, rfl⟩
    · simp [answered, eq_comm]
    · simp [answered]
  nothing_to_check_iff := by
    rcases ends with ⟨refusal, answered, rfl⟩ | ⟨output, errors, status, answered, -, rfl⟩
    · simp [answered]
    · simp [answered]
  result_iff := by
    rcases ends with ⟨refusal, answered, rfl⟩ | ⟨output, errors, status, answered, -, rfl⟩ <;> simp
  report := by
    rcases ends with ⟨refusal, answered, rfl⟩ | ⟨output, errors, status, answered, -, rfl⟩ <;> simp

/-- With owners a build is started: it was refused, or it has run. -/
theorem ProcessTrace.of_build {output errors : List UInt8} {status : Int} {command : List String}
    (named : v.relative w path = .ok name) (asked : Query.command c.settings name = .ok query)
    (finished : answer ⟨query, w.root⟩ = .finished output errors status)
    (owned : ownersIn output ≠ [])
    (built : Build.command c.settings c.format (ownersIn output) = .ok command)
    {result : Except Failure (Option CheckResult)}
    (ends : (∃ refusal, answer ⟨command, w.root⟩ = .refused refusal ∧
        result = .error (.launch c.settings.executable refusal.text)) ∨
      (∃ written errors status, answer ⟨command, w.root⟩ = .finished written errors status ∧
        result = .ok (some (resultOf path ⟨w, ownersIn output⟩ command written errors status)))) :
    ProcessTrace c v answer path (some w) [⟨query, w.root⟩, ⟨command, w.root⟩] result where
  shape := .inr (.inr ⟨_, _, rfl⟩)
  nothing_iff := by
    have quotable := quotable_of_command asked
    simpa [named] using quotable
  build_iff := by
    have visible := ownersIn_ne_nil_iff.mp owned
    simp [finished, visible]
  directory := by simp
  query := by
    intro s first
    obtain rfl : _ = s := by simpa using first
    exact ⟨w, name, rfl, named, asked⟩
  build := by
    intro first second starts
    obtain ⟨rfl, rfl⟩ : _ = first ∧ _ = second := by simpa using starts
    exact ⟨output, errors, status, finished, built⟩
  failure_iff := by
    intro e
    -- the last start is the build, and the query has been answered
    rcases ends with ⟨refusal, answered, rfl⟩ | ⟨written, errors, status, answered, rfl⟩
    · simp [answered, eq_comm]
    · simp [answered]
  nothing_to_check_iff := by
    rcases ends with ⟨refusal, answered, rfl⟩ | ⟨written, errors, status, answered, rfl⟩ <;> simp
  result_iff := by
    rcases ends with ⟨refusal, answered, rfl⟩ | ⟨written, errors, status, answered, rfl⟩
    · simp [answered]
    · exact ⟨fun _ => ⟨_, _, written, errors, status, rfl, answered⟩, fun _ => ⟨_, rfl⟩⟩
  report := by
    rcases ends with ⟨refusal, answered, rfl⟩ | ⟨written, errors', status', answered, rfl⟩
    · simp
    · intro r isResult
      obtain rfl : _ = r := by simpa using isResult
      exact ⟨_, _, output, errors, status, rfl, finished, rfl, rfl, rfl,
        Build.suffix_of_command built⟩

end Asked

/-- Every way in which a check can go has such a trace. -/
theorem CheckRun.processTrace {o : Outcome (Option CheckResult)}
    (h : CheckRun c v answer path found o) :
    ProcessTrace c v answer path found o.starts o.result := by
  unfold Outcome.starts
  cases h with
  | idle lookups =>
    cases lookups with
    | outside => exact .of_nothing (.inl rfl)
    | unquotable named unquotable => exact .of_nothing (.inr ⟨_, _, rfl, named, unquotable⟩)
    | unowned named asked finished unowned =>
      simpa [List.filterMap_cons] using
        ProcessTrace.of_query named asked (.inr ⟨_, _, _, finished, unowned, rfl⟩)
  | failed lookups =>
    cases lookups with
    | refused named asked refusal =>
      simpa using ProcessTrace.of_query named asked (.inl ⟨_, refusal, rfl⟩)
  | refused lookups built refusal =>
    cases lookups with
    | owned named asked finished owned =>
      simpa using ProcessTrace.of_build named asked finished owned built (.inl ⟨_, refusal, rfl⟩)
  | finished lookups built ran =>
    cases lookups with
    | owned named asked finished owned =>
      simpa using ProcessTrace.of_build named asked finished owned built
        (.inr ⟨_, _, _, ran, rfl⟩)

/-- **The process trace of a check.** In a world whose programs answer by command and
directory alone, a check of a path that can be searched for a workspace has a process
trace in the sense of `ProcessTrace`. -/
theorem check_processTrace (c : Checker) (v : View) (answer : Start → Answer) (path : Path)
    (found : Option Workspace) (located : v.workspace? path = .ok found) :
    ProcessTrace c v answer path found ((c.check path).run (.answering v answer)).starts
      ((c.check path).run (.answering v answer)).result :=
  (check_run located).processTrace

/-- A folder with a marked workspace in it and a file in the workspace. -/
def sampleView : View :=
  { files := ⟨[("ws", .folder [("WORKSPACE", .file "" false), ("lib.rs", .file "" false)])]⟩
    directory := [] }

/-- A build tool that knows one owner and cannot be run a second time. -/
def sampleAnswer (s : Start) : Answer :=
  if s.command[1]? = some "query" then .finished (Text.encode "//:lib\n") [] 0
  else .refused (.worded "gone")

/-- The query for the owner of the file. -/
def sampleQuery : List String :=
  ["bazel", "query", "--ui_event_filters=-info,-debug,-warning,-error,-stderr",
    "--noshow_progress", "kind(\".* rule\", rdeps(//..., \"lib.rs\", 1))"]

/-- The build of the owner that the sample knows. -/
def sampleBuild : List String :=
  ["bazel", "build", "--ui_event_filters=-info,-debug,-warning,-stderr", "--noshow_progress",
    "--@rules_rust//:error_format=json", "//:lib"]

/-- In a marked folder the query and one build are started there, and the refusal of the build
is the failure of the check. -/
theorem check_processTrace_sample :
    sampleView.workspace? (.ofText "/ws/lib.rs") = .ok (some ⟨.ofText "/ws"⟩) ∧
      ProcessTrace ⟨"bazel", {}, .rustcJson⟩ sampleView sampleAnswer (.ofText "/ws/lib.rs")
        (some ⟨.ofText "/ws"⟩)
        ((check ⟨"bazel", {}, .rustcJson⟩ (.ofText "/ws/lib.rs")).run
          (.answering sampleView sampleAnswer)).starts
        ((check ⟨"bazel", {}, .rustcJson⟩ (.ofText "/ws/lib.rs")).run
          (.answering sampleView sampleAnswer)).result ∧
      ((check ⟨"bazel", {}, .rustcJson⟩ (.ofText "/ws/lib.rs")).run
        (.answering sampleView sampleAnswer)).starts =
          [⟨sampleQuery, .ofText "/ws"⟩, ⟨sampleBuild, .ofText "/ws"⟩] ∧
      ((check ⟨"bazel", {}, .rustcJson⟩ (.ofText "/ws/lib.rs")).run
        (.answering sampleView sampleAnswer)).result = .error (.launch "bazel" "gone") :=
  ⟨by decide +kernel, check_processTrace _ _ _ _ _ (by decide +kernel), by decide +kernel,
    by decide +kernel⟩

end Checker

end OwnerBuild
