/-
# OwnerBuild.Proofs.Cli.SameLookup -- a file is looked up the same way wherever it is asked for

Where the workspace of a file is and which rules own it is told in many places: by commands
that print the root, the owners and a report, and by the tools of the server that return
them. All of it is one lookup (`sameLookup`). It starts at most the one query and never a
build, whoever asks; what the report finds, what the command prints and what the tool returns
are three encodings of the same outcome, each with its own way to say that nothing was found
and that the query could not be run.

Roots and owners are printed as plain text, one a line, and that is meant to print them as they
are. As with the build that is shown, emoji codes are replaced all the same and some control
characters taken out, so a line is given to be laid out as it is exactly if there is nothing of
that kind in it, whatever the table of emoji is.
In a folder with the name of an emoji the command prints another root than the tool returns
(`root_emoji_folder`).
-/

import OwnerBuild.Proofs.Checker.Reported
import OwnerBuild.Proofs.Cli.Checked
import OwnerBuild.Proofs.Cli.ShownBuild
import OwnerBuild.Tools

namespace OwnerBuild

open Console (Item PrintsAsIs inStyle)
open Markup (EmojiTable)

/-! ## The commands and tools, one by one -/

section Lookups

variable {c : Checker} {path : Path} {w : World} {found : Option Workspace}

namespace Cli

variable [EmojiTable]

/-- The line that no workspace encloses a path. -/
def noWorkspace (path : Path) : Item :=
  .markup (inStyle "red" ("No Bazel workspace encloses " ++ Markup.escapeString path.text ++ "."))

/-- The line that no rule owns a path. -/
def noTargets : Item := .line [⟨"No targets found.".toList, some "yellow"⟩] .output

/-- The table that shows some findings. -/
def findingsTable (findings : List Finding) : Item :=
  .markupTable ["check", "status", "message"] (findings.map findingRow)

theorem root_missing (located : w.view.workspace? path = .ok none) :
    root path w = ⟨.ok 1, w.view.files, [.printed (noWorkspace path)]⟩ := by
  unfold root
  rw [Action.bind_undisturbed (Checker.workspaceOf_run w located)]
  rfl

theorem root_found {workspace : Workspace}
    (located : w.view.workspace? path = .ok (some workspace)) :
    root path w = ⟨.ok 0, w.view.files, [.printed (.plain workspace.root.text)]⟩ := by
  unfold root
  rw [Action.bind_undisturbed (Checker.workspaceOf_run w located)]
  rfl

section Targets

variable {r : Registry} {events : List Event}

theorem targets_idle (get : r.get Checker.standardName = .ok c)
    (prepared : c.prepare path w = ⟨.ok none, w.view.files, events⟩) :
    targets r path w = ⟨.ok 0, w.view.files, events ++ [.printed noTargets]⟩ := by
  have line : Item.markup (inStyle "yellow" "No targets found.") = noTargets := by
    refine congrArg (Item.line · .output) ?_
    exact (Markup.render_eq_of_noColon (by decide +kernel)).trans (by decide +kernel)
  unfold targets
  rw [get, Action.ofExcept_ok, Action.pure_bind, orTell_undisturbed prepared, ← line]
  rfl

theorem targets_failed {executable reason : String} (get : r.get Checker.standardName = .ok c)
    (prepared : c.prepare path w =
      ⟨.error (.launch executable reason), w.view.files, events⟩) :
    targets r path w = ⟨.ok 1, w.view.files,
      events ++ [.printed (launchLine (.launch executable reason))]⟩ := by
  unfold targets
  rw [get, Action.ofExcept_ok, Action.pure_bind, orTell_launch prepared]

/-- Owners are printed one a line. -/
theorem targets_found {p : Prepared} (get : r.get Checker.standardName = .ok c)
    (prepared : c.prepare path w = ⟨.ok (some p), w.view.files, events⟩) :
    targets r path w = ⟨.ok 0, w.view.files,
      events ++ p.targets.map fun target => .printed (.plain target)⟩ := by
  unfold targets
  rw [get, Action.ofExcept_ok, Action.pure_bind, orTell_undisturbed prepared]
  dsimp only
  rw [Action.bind_pure_run (Action.forEach_print_run _ _)]
  rfl

end Targets

/-- What the report of a path comes to is shown in a table, and its worst finding is the
status. -/
theorem verify_run {r : Registry} {findings : List Finding} {events : List Event}
    (get : r.get Checker.standardName = .ok c)
    (told : c.report path w = ⟨.ok findings, w.view.files, events⟩) :
    verify r path w = ⟨.ok (exitStatus (findings.any (·.verdict = .error))), w.view.files,
      events ++ [.printed (findingsTable findings)]⟩ := by
  unfold verify
  rw [get, Action.ofExcept_ok, Action.pure_bind, Action.bind_undisturbed told]
  rfl

end Cli

namespace Tools

theorem locateRoot_run (located : w.view.workspace? path = .ok found) :
    locateRoot path w = ⟨.ok (found.map (·.root.text)), w.view.files, []⟩ := by
  unfold locateRoot
  exact Action.bind_pure_run (Checker.workspaceOf_run w located)

/-- What the tool that lists owners answers for a preparation. -/
def listed : Except Failure (Option Prepared) → Except String (List String)
  | .error e => .error (errorText e)
  | .ok none => .ok []
  | .ok (some p) => .ok p.targets

theorem listTargets_run {s : Server} {o : Outcome (Option Prepared)} {executable : String}
    (only : o.OnlyLaunchFails executable) (prepared : s.checker.prepare path w = o) :
    s.listTargets path w = { o with result := .ok (listed o.result) } := by
  obtain ⟨result, files, events⟩ := o
  unfold Server.listTargets
  rcases only with ⟨none | p, rfl⟩ | ⟨reason, rfl⟩
  · exact Action.bind_return (Action.orLaunchFailure_ok prepared) rfl
  · exact Action.bind_return (Action.orLaunchFailure_ok prepared) rfl
  · exact Action.bind_return (Action.orLaunchFailure_launch prepared) rfl

end Tools

end Lookups

/-! ## Agreement -/

/-- No owner is an empty text. -/
theorem ne_empty_of_mem_ownersIn {output : List UInt8} {target : String}
    (h : target ∈ ownersIn output) : target ≠ "" := by
  obtain ⟨label, member, rfl⟩ := List.mem_map.mp h
  have visible : label ≠ [] := by simpa using (List.mem_filter.mp member).2
  simpa using visible

namespace Checker

variable {c : Checker} {v : View} {answer : Start → Answer} {path : Path}
  {found : Option Workspace} {o : Outcome (Option Prepared)}

/-- The lookups start nothing, or the query for the owners of the path in its workspace. -/
theorem PrepareRun.starts_eq (h : PrepareRun c v answer path found o) :
    o.starts = [] ∨ ∃ workspace name query, found = some workspace ∧
      v.relative workspace path = .ok name ∧ Query.command c.settings name = .ok query ∧
      o.starts = [⟨query, workspace.root⟩] ∧ Start.isBuild ⟨query, workspace.root⟩ = false := by
  cases h with
  | outside => exact .inl rfl
  | unquotable named unquotable => exact .inl rfl
  | refused named asked refusal =>
    exact .inr ⟨_, _, _, rfl, named, asked, rfl, Query.isBuild_command asked⟩
  | unowned named asked finished unowned =>
    exact .inr ⟨_, _, _, rfl, named, asked, rfl, Query.isBuild_command asked⟩
  | owned named asked finished owned =>
    exact .inr ⟨_, _, _, rfl, named, asked, rfl, Query.isBuild_command asked⟩

/-- What is prepared has targets, each with a text, in the workspace that was found. -/
theorem PrepareRun.owned_of_some {p : Prepared} (h : PrepareRun c v answer path found o)
    (prepared : o.result = .ok (some p)) :
    found = some p.workspace ∧ p.targets ≠ [] ∧ ∀ target ∈ p.targets, target ≠ "" := by
  cases h with
  | outside | unquotable | refused | unowned => simp at prepared
  | owned named asked finished owned =>
    obtain rfl := Option.some.inj (Except.ok.inj prepared)
    exact ⟨rfl, owned, fun _ => ne_empty_of_mem_ownersIn⟩

theorem PrepareRun.onlyLaunchFails (h : PrepareRun c v answer path found o) :
    o.OnlyLaunchFails c.settings.executable := by
  cases h with
  | outside | unquotable | unowned | owned => exact .inl ⟨_, rfl⟩
  | refused => exact .inr ⟨_, rfl⟩

end Checker

namespace Cli

open Checker (OnWorkspace OnTargets PrepareRun)
open Tools (errorText)

/-- What the command that prints a root (`told`) and the tool that returns one (`answered`)
make of what was found around a path. -/
structure RootTold [EmojiTable] (found : Option Workspace) (told : Outcome Nat)
    (answered : Outcome (Option String)) : Prop where
  /-- Neither of them starts anything. -/
  idle : told.starts = [] ∧ answered.starts = []
  /-- The tool returns a root exactly if it is that of the workspace. -/
  answered_iff : ∀ root : Path, answered.result = .ok (some root.text) ↔ found = some ⟨root⟩
  /-- The tool returns none exactly if there is no workspace. -/
  none_iff : answered.result = .ok none ↔ found = none
  /-- Then the command exits with 1. -/
  bad_iff : told.result = .ok 1 ↔ found = none
  /-- Otherwise the command exits with 0. -/
  good_iff : told.result = .ok 0 ↔ found ≠ none
  /-- The command prints the root, on one line. -/
  printed : ∀ workspace, found = some workspace → told.printed = [.plain workspace.root.text]
  /-- The root is printed as it is exactly if printing finds nothing in it. -/
  asIs : ∀ workspace, found = some workspace →
    (Item.plain workspace.root.text = .verbatim workspace.root.text ↔
      PrintsAsIs workspace.root.text)

/-- What the command that prints owners (`told`) and the tool that lists them (`answered`) make
of what was prepared for a path. -/
structure TargetsTold [EmojiTable] (prepared : Outcome (Option Prepared)) (told : Outcome Nat)
    (answered : Outcome (Except String (List String))) : Prop where
  /-- Both start what the lookups start. -/
  starts_eq : told.starts = prepared.starts ∧ answered.starts = prepared.starts
  /-- Owners are printed one a line, and listed. -/
  owned : ∀ p, prepared.result = .ok (some p) → told.result = .ok 0 ∧
    told.printed = p.targets.map .plain ∧ answered.result = .ok (.ok p.targets)
  /-- An owner is printed as it is exactly if printing finds nothing in it. -/
  asIs : ∀ p, prepared.result = .ok (some p) →
    ∀ target ∈ p.targets, (Item.plain target = .verbatim target ↔ PrintsAsIs target)
  /-- Without owners one line says so, and an empty list is returned. -/
  nothing : prepared.result = .ok none → told.result = .ok 0 ∧ told.printed = [noTargets] ∧
    answered.result = .ok (.ok [])
  /-- If the query could not be run one line says why, and the text of the failure is returned. -/
  failed : ∀ executable reason, prepared.result = .error (.launch executable reason) →
    told.result = .ok 1 ∧ told.printed = [launchLine (.launch executable reason)] ∧
      answered.result = .ok (.error (errorText (.launch executable reason)))

/-- What the command that prints a report (`told`) makes of it. -/
structure ReportTold [EmojiTable] (found : Option Workspace) (prepared : Outcome (Option Prepared))
    (report : Outcome (List Finding)) (told : Outcome Nat) : Prop where
  /-- It starts what the lookups start. -/
  starts_eq : told.starts = prepared.starts
  /-- It shows the findings of the report in a table. -/
  printed : ∃ findings, report.result = .ok findings ∧ told.printed = [findingsTable findings]
  /-- It exits with 1 exactly if there is no workspace or the query could not be run. -/
  bad_iff : told.result = .ok 1 ↔ found = none ∨
    ∃ executable reason, prepared.result = .error (.launch executable reason)
  /-- Otherwise it exits with 0. -/
  good_iff : told.result = .ok 0 ↔ found ≠ none ∧
    ∀ executable reason, prepared.result ≠ .error (.launch executable reason)

/-- What the lookups before a build (`prepared`), the report on them (`report`), the commands
and the tools have to do with each other and with what was found around the path. -/
structure SameLookup [EmojiTable] (c : Checker) (path : Path) (w : World) (found : Option Workspace)
    (prepared : Outcome (Option Prepared)) (report : Outcome (List Finding)) : Prop where
  /-- Nothing is started but the query for the owners of the path in its workspace. -/
  starts : prepared.starts = [] ∨ ∃ workspace name query, found = some workspace ∧
    w.view.relative workspace path = .ok name ∧ Query.command c.settings name = .ok query ∧
    prepared.starts = [⟨query, workspace.root⟩] ∧ Start.isBuild ⟨query, workspace.root⟩ = false
  /-- The report starts the same. -/
  starts_eq : report.starts = prepared.starts
  /-- The lookups have a result, or the query could not be run. -/
  ways : prepared.OnlyLaunchFails c.settings.executable
  /-- What they prepare is some targets in the workspace that was found. -/
  owned : ∀ p, prepared.result = .ok (some p) → found = some p.workspace ∧ p.targets ≠ []
  /-- The report has one finding on the workspace and one on the targets. -/
  findings : ∃ onWorkspace onTargets, report.result = .ok [onWorkspace, onTargets] ∧
    OnWorkspace found onWorkspace ∧ OnTargets prepared.result onTargets
  /-- The root is the same for the command and the tool. -/
  root : RootTold found ((Cli.root path).run w) ((Tools.locateRoot path).run w)
  /-- So are the owners and the report, for every registry that has the checker as its standard
  one; the server's report is the report itself. -/
  shown : ∀ r : Registry, r.get Checker.standardName = .ok c → ∃ s, Tools.Server.create r = .ok s ∧
    TargetsTold prepared ((targets r path).run w) ((s.listTargets path).run w) ∧
    ReportTold found prepared report ((verify r path).run w) ∧
    (s.verifyFile path).run w = report

section Parts

variable [EmojiTable] {c : Checker} {path : Path} {w : World} {found : Option Workspace}

theorem RootTold.of_workspace (located : w.view.workspace? path = .ok found) :
    RootTold found (root path w) (Tools.locateRoot path w) := by
  rw [Tools.locateRoot_run located]
  cases found with
  | none =>
    rw [root_missing located]
    constructor <;> simp [Outcome.starts]
  | some workspace =>
    rw [root_found located]
    have same : ∀ root : Path, workspace.root.text = root.text ↔ workspace = ⟨root⟩ := fun root =>
      ⟨fun h => congrArg Workspace.mk (Path.text_injective h), fun h => by rw [h]⟩
    exact
      { idle := ⟨rfl, rfl⟩
        answered_iff := by simpa using same
        none_iff := by simp
        bad_iff := by simp
        good_iff := by simp
        printed := by simp [Outcome.printed]
        asIs := by
          intro _ _
          exact Item.plain_eq_verbatim_iff (Path.text_ne_empty _) }

theorem TargetsTold.of_prepare {r : Registry} {s : Tools.Server} {executable : String}
    {result : Except Failure (Option Prepared)} {events : List Event}
    (get : r.get Checker.standardName = .ok c) (serves : s.checker = c)
    (prepared : c.prepare path w = ⟨result, w.view.files, events⟩)
    (only : Outcome.OnlyLaunchFails executable ⟨result, w.view.files, events⟩)
    (silent : events.filterMap Event.item? = [])
    (visible : ∀ p, result = .ok (some p) → ∀ target ∈ p.targets, target ≠ "") :
    TargetsTold ⟨result, w.view.files, events⟩ (targets r path w) (s.listTargets path w) := by
  rw [Tools.listTargets_run only (serves ▸ prepared)]
  rcases only with ⟨none | p, ok⟩ | ⟨reason, failed⟩
  · obtain rfl : result = .ok none := ok
    rw [targets_idle get prepared]
    constructor <;> simp [Outcome.starts, Outcome.printed, silent, Tools.listed]
  · obtain rfl : result = .ok (some p) := ok
    rw [targets_found get prepared]
    have lines : (p.targets.map fun target => Event.printed (.plain target)).filterMap
        Event.item? = p.targets.map .plain := by
      rw [List.filterMap_map]
      show p.targets.filterMap (some ∘ Item.plain) = _
      rw [List.filterMap_eq_map]
    have noStarts : (p.targets.map fun target => Event.printed (.plain target)).filterMap
        Event.start? = [] := by
      rw [List.filterMap_map]
      simp
    exact
      { starts_eq := ⟨by simp [Outcome.starts, noStarts], rfl⟩
        owned := by simp [Outcome.printed, silent, lines, Tools.listed]
        asIs := by
          intro p' prepared' target member
          exact Item.plain_eq_verbatim_iff (visible p' prepared' target member)
        nothing := by simp
        failed := by simp }
  · obtain rfl : result = .error (.launch executable reason) := failed
    rw [targets_failed get prepared]
    constructor <;> simp [Outcome.starts, Outcome.printed, silent, Tools.listed]

theorem ReportTold.of_prepare {r : Registry} {result : Except Failure (Option Prepared)}
    {events : List Event} {executable : String} (get : r.get Checker.standardName = .ok c)
    (told : c.report path w = ⟨.ok [Checker.workspaceFinding found, Checker.preparedFinding result],
      w.view.files, events⟩)
    (only : Outcome.OnlyLaunchFails executable ⟨result, w.view.files, events⟩)
    (silent : events.filterMap Event.item? = []) :
    ReportTold found ⟨result, w.view.files, events⟩ (c.report path w) (verify r path w) := by
  rw [verify_run get told, told]
  refine
    { starts_eq := by simp [Outcome.starts]
      printed := ⟨_, rfl, by simp [Outcome.printed, silent]⟩
      bad_iff := ?_
      good_iff := ?_ }
  all_goals
    rcases only with ⟨none | p, ok⟩ | ⟨reason, failed⟩
    · obtain rfl : result = .ok none := ok
      cases found <;> simp [Checker.workspaceFinding, Checker.preparedFinding, exitStatus]
    · obtain rfl : result = .ok (some p) := ok
      cases found <;> simp [Checker.workspaceFinding, Checker.preparedFinding, exitStatus]
    · obtain rfl : result = .error (.launch executable reason) := failed
      cases found <;> simp [Checker.workspaceFinding, Checker.preparedFinding, exitStatus]

end Parts

/-- **A file is looked up in one way**, by the check, the report, the commands and the tools. In a
world whose programs answer by command and directory alone, for a path that can be searched
for a workspace. -/
theorem sameLookup [EmojiTable] (c : Checker) (v : View) (answer : Start → Answer) (path : Path)
    (found : Option Workspace) (located : v.workspace? path = .ok found) :
    SameLookup c path (.answering v answer) found ((c.prepare path).run (.answering v answer))
      ((c.report path).run (.answering v answer)) := by
  have lookups : PrepareRun c v answer path found (c.prepare path (.answering v answer)) :=
    Checker.prepare_run located
  have told := Checker.report_run (c := c) (World.answers_answering v answer _) located
  have root : RootTold found (root path (.answering v answer))
      (Tools.locateRoot path (.answering v answer)) := .of_workspace located
  have only := lookups.onlyLaunchFails
  have files := lookups.files_eq
  have silent := lookups.printed_eq_nil
  have onTargets := Checker.onTargets_preparedFinding only
  show SameLookup c path _ found (c.prepare path _) (c.report path _)
  generalize prepared : c.prepare path (.answering v answer) = o at *
  obtain ⟨result, _, events⟩ := o
  obtain rfl : _ = v.files := files
  exact
    { starts := lookups.starts_eq
      starts_eq := by rw [told]; rfl
      ways := only
      owned := fun p isPrepared =>
        have ⟨inside, owned, _⟩ := lookups.owned_of_some isPrepared
        ⟨inside, owned⟩
      findings := ⟨_, _, by rw [told], Checker.onWorkspace_workspaceFinding found, onTargets⟩
      root := root
      shown := by
        intro r get
        have created : Tools.Server.create r = .ok ⟨r, c⟩ := by
          rw [Tools.Server.create, get]
          rfl
        exact ⟨⟨r, c⟩, created,
          .of_prepare get rfl prepared only silent fun p isPrepared =>
            (lookups.owned_of_some isPrepared).2.2,
          .of_prepare get told only silent, rfl⟩ }

/-- In a marked folder, where the query names one owner: it is the only start, the owner is printed
and listed, and the report has it in a row. -/
theorem sameLookup_sample :
    Checker.sampleView.workspace? (.ofText "/ws/lib.rs") = .ok (some ⟨.ofText "/ws"⟩) ∧
      SameLookup ⟨Checker.standardName, {}, .rustcJson⟩ (.ofText "/ws/lib.rs")
        (.answering Checker.sampleView Checker.sampleAnswer) (some ⟨.ofText "/ws"⟩)
        ((Checker.prepare ⟨Checker.standardName, {}, .rustcJson⟩ (.ofText "/ws/lib.rs")).run
          (.answering Checker.sampleView Checker.sampleAnswer))
        ((Checker.report ⟨Checker.standardName, {}, .rustcJson⟩ (.ofText "/ws/lib.rs")).run
          (.answering Checker.sampleView Checker.sampleAnswer)) ∧
      ((Checker.prepare ⟨Checker.standardName, {}, .rustcJson⟩ (.ofText "/ws/lib.rs")).run
        (.answering Checker.sampleView Checker.sampleAnswer)).starts =
          [⟨Checker.sampleQuery, .ofText "/ws"⟩] ∧
      ((Checker.report ⟨Checker.standardName, {}, .rustcJson⟩ (.ofText "/ws/lib.rs")).run
        (.answering Checker.sampleView Checker.sampleAnswer)).result =
          .ok [⟨Checker.workspaceLabel, "/ws", .success⟩,
            ⟨Checker.targetsLabel, "//:lib", .success⟩] ∧
      ((root (.ofText "/ws/lib.rs")).run
        (.answering Checker.sampleView Checker.sampleAnswer)).printed = [.verbatim "/ws"] ∧
      ((targets Checker.soleRegistry (.ofText "/ws/lib.rs")).run
        (.answering Checker.sampleView Checker.sampleAnswer)).printed = [.verbatim "//:lib"] ∧
      ((Tools.Server.listTargets ⟨Checker.soleRegistry, ⟨Checker.standardName, {}, .rustcJson⟩⟩
        (.ofText "/ws/lib.rs")).run (.answering Checker.sampleView Checker.sampleAnswer)).result =
          .ok (.ok ["//:lib"]) := by
  have located : Checker.sampleView.workspace? (.ofText "/ws/lib.rs") =
      .ok (some ⟨.ofText "/ws"⟩) := by decide +kernel
  exact ⟨located, sameLookup _ _ _ _ _ located, by decide +kernel, by decide +kernel,
    by decide +kernel, by decide +kernel, by decide +kernel⟩

/-- A build tool that knows an owner with the code of an emoji in its label. -/
def emojiAnswer (_ : Start) : Answer := .finished (Text.encode "//:100:lib\n") [] 0

set_option maxRecDepth 10000 in
/-- The root and the owner are returned as they are and printed otherwise. -/
theorem root_emoji_folder :
    ((Tools.locateRoot (.ofText "/:100:/lib.rs")).run
        (.answering Checker.emojiView emojiAnswer)).result = .ok (some "/:100:") ∧
      ((root (.ofText "/:100:/lib.rs")).run
        (.answering Checker.emojiView emojiAnswer)).printed = [.verbatim "/💯"] ∧
      ((Tools.Server.listTargets ⟨Checker.soleRegistry, ⟨Checker.standardName, {}, .rustcJson⟩⟩
        (.ofText "/:100:/lib.rs")).run
          (.answering Checker.emojiView emojiAnswer)).result = .ok (.ok ["//:100:lib"]) ∧
      ((targets Checker.soleRegistry (.ofText "/:100:/lib.rs")).run
        (.answering Checker.emojiView emojiAnswer)).printed = [.verbatim "//💯lib"] ∧
      Item.verbatim "/💯" ≠ .verbatim "/:100:" ∧
      Item.verbatim "//💯lib" ≠ .verbatim "//:100:lib" := by
  decide +kernel

end Cli

end OwnerBuild
