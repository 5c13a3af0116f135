/-
# OwnerBuild.Proofs.Cli.ShownBuild -- the build that is shown, and how it is printed

The command that shows a build prints two lines: where to go, and what to run there. Both
are the ones of the build that a check would start (`dryRun`). They are printed as plain
text, without markup, and that is meant to print them as they are. It almost does: emoji codes
are replaced in plain text too, and some control characters are taken out. A line is given to
be laid out as it is exactly if there is nothing of that kind in it, and that holds for every
table of emoji. A workspace in a folder with the name of an emoji is enough for the first line
to name another folder, one that need not exist (`command_emoji_folder`).
-/

import OwnerBuild.Markup.Names
import OwnerBuild.Proofs.Checker.DryRun
import OwnerBuild.Proofs.Checker.Trace
import OwnerBuild.Proofs.Cli.Status
import OwnerBuild.Proofs.Markup.Verbatim

namespace OwnerBuild

open Console (Item PrintsAsIs)
open Markup (EmojiTable)

/-- A build's command is not printed as an empty line. -/
theorem Build.joined_ne_empty {settings : Settings} {format : Format}
    {targets argv : List String} (assembled : Build.command settings format targets = .ok argv) :
    String.intercalate " " argv ≠ "" := by
  unfold Build.command at assembled
  split at assembled
  · cases assembled
  · obtain rfl := Except.ok.inj assembled
    intro empty
    have letters := congrArg String.toList empty
    simp [String.toList_intercalate] at letters

namespace Checker

variable {c : Checker} {v : View} {answer : Start → Answer} {path : Path} {argv : List String}

/-- Where a build is shown a workspace has been found and the build has been assembled; the
files are left alone and nothing is printed yet. -/
theorem command_shown (shown : (c.command path (.answering v answer)).result = .ok (some argv)) :
    ∃ w targets events, v.workspace? path = .ok (some w) ∧
      Build.command c.settings c.format targets = .ok argv ∧
      c.command path (.answering v answer) = ⟨.ok (some argv), v.files, events⟩ ∧
      events.filterMap Event.item? = [] := by
  cases located : v.workspace? path with
  | error e =>
    rw [command_failed (prepare_unlocated (.answering v answer) located)] at shown
    cases shown
  | ok found =>
    have lookups : PrepareRun c v answer path found (c.prepare path (.answering v answer)) :=
      prepare_run located
    have silent := lookups.printed_eq_nil
    generalize prepared : c.prepare path (.answering v answer) = o at lookups silent
    cases lookups with
    | outside | unquotable | unowned =>
      rw [command_idle prepared] at shown
      cases shown
    | refused =>
      rw [command_failed prepared] at shown
      cases shown
    | @owned w name query output errors status named asked finished owned =>
      rw [command_assembled prepared (if_neg owned)] at shown
      obtain rfl := Option.some.inj (Except.ok.inj shown)
      exact ⟨w, _, _, rfl, if_neg owned, command_assembled prepared (if_neg owned), silent⟩

end Checker

namespace Cli

variable [EmojiTable] {r : Registry} {c : Checker} {v : View} {answer : Start → Answer} {path : Path}
  {argv : List String}

/-- What is printed of a build that is shown. -/
theorem command_run {w : Workspace} {events : List Event}
    (get : r.get Checker.standardName = .ok c) (located : v.workspace? path = .ok (some w))
    (shown : c.command path (.answering v answer) = ⟨.ok (some argv), v.files, events⟩) :
    command r path (.answering v answer) =
      ⟨.ok 0, v.files, events ++ [.printed (.plain ("cd " ++ w.root.text)),
        .printed (.plain (String.intercalate " " argv))]⟩ := by
  unfold command
  rw [get, Action.ofExcept_ok, Action.pure_bind, orTell_undisturbed shown]
  dsimp only
  rw [Action.bind_undisturbed (Checker.workingDirectory_run (.answering v answer) located)]
  rfl

end Cli

namespace Checker

/-- **The build that is shown is the build that is run, and it is what is printed.** The
command that shows a build and the check that runs it agree in the sense of `DryRun`; and
when a build is shown, the two lines that are printed go to the directory of the build and
give its command, each as it is exactly if printing finds nothing in it to replace or to
take out. -/
theorem dryRun [EmojiTable] (c : Checker) (v : View) (answer : Start → Answer) (path : Path) :
    DryRun c answer ((c.command path).run (.answering v answer))
        ((c.check path).run (.answering v answer))
        ((workingDirectory path).run (.answering v answer)).result ∧
      ∀ (r : Registry) (argv : List String), r.get standardName = .ok c →
        ((c.command path).run (.answering v answer)).result = .ok (some argv) →
        ∃ d there what, ((workingDirectory path).run (.answering v answer)).result = .ok (some d) ∧
          there = "cd " ++ d.text ∧ what = String.intercalate " " argv ∧
          ((Cli.command r path).run (.answering v answer)).result = .ok 0 ∧
          ((Cli.command r path).run (.answering v answer)).printed =
            [.plain there, .plain what] ∧
          (Item.plain there = .verbatim there ↔ PrintsAsIs there) ∧
          (Item.plain what = .verbatim what ↔ PrintsAsIs what) := by
  refine ⟨dryRun_answering c v answer path, ?_⟩
  intro r argv get shown
  obtain ⟨w, targets, events, located, assembled, run, silent⟩ := command_shown shown
  have place : (workingDirectory path).run (.answering v answer) =
      ⟨.ok (some w.root), v.files, []⟩ := workingDirectory_run (.answering v answer) located
  have lines : (Cli.command r path).run (.answering v answer) =
      ⟨.ok 0, v.files, events ++ [.printed (.plain ("cd " ++ w.root.text)),
        .printed (.plain (String.intercalate " " argv))]⟩ := Cli.command_run get located run
  have there_visible : "cd " ++ w.root.text ≠ "" := fun empty => by
    simpa using congrArg String.toList empty
  refine ⟨w.root, _, _, by rw [place], rfl, rfl, by rw [lines], ?_,
    Item.plain_eq_verbatim_iff there_visible,
    Item.plain_eq_verbatim_iff (Build.joined_ne_empty assembled)⟩
  rw [lines]
  simp [Outcome.printed, silent]

/-- A registry of the standard checker alone. -/
def soleRegistry : Registry := ⟨[⟨standardName, {}, .rustcJson⟩], by decide⟩

/-- In a marked folder a build is shown, so that two lines are printed. -/
theorem dryRun_sample :
    soleRegistry.get standardName = .ok ⟨standardName, {}, .rustcJson⟩ ∧
      ((command ⟨standardName, {}, .rustcJson⟩ (.ofText "/ws/lib.rs")).run
        (.answering sampleView sampleAnswer)).result = .ok (some sampleBuild) ∧
      ∃ there what, there = "cd /ws" ∧ what = String.intercalate " " sampleBuild ∧
        ((Cli.command soleRegistry (.ofText "/ws/lib.rs")).run
          (.answering sampleView sampleAnswer)).printed = [.plain there, .plain what] ∧
        (Item.plain there = .verbatim there ↔ PrintsAsIs there) := by
  have get : soleRegistry.get standardName = .ok ⟨standardName, {}, .rustcJson⟩ := by rfl
  have shown : ((command ⟨standardName, {}, .rustcJson⟩ (.ofText "/ws/lib.rs")).run
      (.answering sampleView sampleAnswer)).result = .ok (some sampleBuild) := by decide +kernel
  have place : ((workingDirectory (.ofText "/ws/lib.rs")).run
      (.answering sampleView sampleAnswer)).result = .ok (some (.ofText "/ws")) := by
    decide +kernel
  obtain ⟨d, there, what, placed, rfl, rfl, -, printed, asIs, -⟩ :=
    (dryRun ⟨standardName, {}, .rustcJson⟩ sampleView sampleAnswer (.ofText "/ws/lib.rs")).2
      soleRegistry sampleBuild get shown
  obtain rfl : Path.ofText "/ws" = d := Option.some.inj (Except.ok.inj (place.symm.trans placed))
  exact ⟨get, shown, _, _, by decide +kernel, rfl, printed, asIs⟩

/-- A workspace in a folder with the name of an emoji. -/
def emojiView : View :=
  { files := ⟨[(":100:", .folder [("WORKSPACE", .file "" false), ("lib.rs", .file "" false)])]⟩
    directory := [] }

set_option maxRecDepth 10000 in
/-- The build is to be run in the folder, and the line that is printed goes to another one. -/
theorem command_emoji_folder :
    ((command ⟨standardName, {}, .rustcJson⟩ (.ofText "/:100:/lib.rs")).run
        (.answering emojiView sampleAnswer)).result = .ok (some sampleBuild) ∧
      ((workingDirectory (.ofText "/:100:/lib.rs")).run
        (.answering emojiView sampleAnswer)).result = .ok (some (.ofText "/:100:")) ∧
      ((Cli.command soleRegistry (.ofText "/:100:/lib.rs")).run
        (.answering emojiView sampleAnswer)).printed.head? = some (.verbatim "cd /💯") ∧
      Item.verbatim "cd /💯" ≠ .verbatim ("cd " ++ (Path.ofText "/:100:").text) := by
  decide +kernel

end Checker

end OwnerBuild
