/-
# OwnerBuild.Proofs.Checker.LineEnds -- line ends make no difference to a check

A query and a build are read line by line, and what either reader makes of an output does not
change when carriage returns are put in front of its line feeds. So nothing that a check does
can change, provided that the programs answer alike otherwise: the owners are the same, hence
so is the build that is started, hence so are its diagnostics. `Launcher.Returned` relates
launchers that answer alike in this sense, whatever else they do; every step of a check comes
to the same with both (`Action.Indifferent`), and steps that do are put together to programs that
do.

The comparison is of whole outcomes: the result or the failure, the files that are left, and
everything that is seen on the way.
-/

import OwnerBuild.Proofs.Checker.Streams
import OwnerBuild.Proofs.Checker.Trace
import OwnerBuild.Proofs.Query.Labels
import OwnerBuild.Proofs.Text.LineEnds

namespace OwnerBuild

/-! ## Answers -/

/-- That a second answer is the first with carriage returns put in front of line feeds that were
written. -/
inductive Answer.Returned : Answer → Answer → Prop
  | finished {output output' errors errors' : List UInt8} (status : Int)
      (written : Text.Returned output output') (told : Text.Returned errors errors') :
      Returned (.finished output errors status) (.finished output' errors' status)
  | refused (e : LaunchError) : Returned (.refused e) (.refused e)

/-- That launchers take the same starts, leave the same files and answer alike but for carriage
returns put in front of line feeds. -/
def Launcher.Returned (l l' : Launcher) : Prop :=
  ∀ (v : View) (s : Start), Option.Rel (fun a b => a.1.Returned b.1 ∧ a.2 = b.2) (l v s) (l' v s)

/-- An answer with a carriage return in front of every line feed that was written. -/
def Answer.withReturns : Answer → Answer
  | .finished output errors status =>
    .finished (Text.withReturns output) (Text.withReturns errors) status
  | .refused e => .refused e

/-- A launcher whose programs put a carriage return in front of every line feed. -/
def Launcher.withReturns (l : Launcher) : Launcher :=
  fun v s => (l v s).map fun answered => (answered.1.withReturns, answered.2)

theorem Answer.returned_withReturns (a : Answer) : a.Returned a.withReturns := by
  cases a with
  | finished output errors status =>
    exact .finished status (Text.returned_withReturns output) (Text.returned_withReturns errors)
  | refused e => exact .refused e

theorem Launcher.returned_withReturns (l : Launcher) : l.Returned l.withReturns := by
  intro v s
  rw [withReturns]
  cases l v s with
  | none => exact .none
  | some answered => exact .some ⟨answered.1.returned_withReturns, rfl⟩

/-! ## Readers of answers -/

namespace Text.Returned

variable {output output' errors errors' : List UInt8}

/-- The owners that a query names are the same. -/
theorem labels_eq (h : Returned output output') :
    Query.labels (writtenText output') = Query.labels (writtenText output) := by
  rw [Query.labels_eq_flatMap, Query.labels_eq_flatMap]
  exact h.flatMap_lines_eq Query.labelOn_nil

/-- The records that a build writes are the same. -/
theorem records_eq (h : Returned output output') (h' : Returned errors errors') :
    Format.records (Checker.joinStreams (writtenText output') (writtenText errors')) =
      Format.records (Checker.joinStreams (writtenText output) (writtenText errors)) := by
  have same {xs ys : List UInt8} (h : Returned xs ys) :
      Format.records (writtenText ys) = Format.records (writtenText xs) := by
    rw [Format.records_eq_flatMap, Format.records_eq_flatMap]
    exact h.flatMap_lines_eq rfl
  rw [Format.records_joinStreams, Format.records_joinStreams, same h, same h']

end Text.Returned

/-! ## Steps -/

namespace Action

variable {α β : Type}

/-- That an action comes to the same, whether carriage returns are put in front of line feeds
or not. -/
def Indifferent (a : Action α) : Prop :=
  ∀ (v : View) (l l' : Launcher), l.Returned l' → a ⟨v, l'⟩ = a ⟨v, l⟩

theorem indifferent_pure (x : α) : (pure x : Action α).Indifferent := fun _ _ _ _ => rfl

theorem indifferent_fail (e : Failure) : (fail e : Action α).Indifferent := fun _ _ _ _ => rfl

theorem indifferent_note (n : Log.Note) : (note n).Indifferent := fun _ _ _ _ => rfl

theorem indifferent_look (question : View → Except LookupError α) : (look question).Indifferent :=
  fun _ _ _ _ => rfl

theorem indifferent_ofExcept (x : Except Failure α) : (ofExcept x).Indifferent := by
  cases x with
  | ok x => exact indifferent_pure x
  | error e => exact indifferent_fail e

/-- Steps that come to the same come to the same together. -/
theorem Indifferent.bind {a : Action α} {f : α → Action β} (first : a.Indifferent)
    (next : ∀ x, (f x).Indifferent) : (a >>= f).Indifferent := by
  intro v l l' alike
  show Action.bind a f ⟨v, l'⟩ = Action.bind a f ⟨v, l⟩
  have second (x : α) (files : FileTree) :
      f x (World.withFiles ⟨v, l'⟩ files) = f x (World.withFiles ⟨v, l⟩ files) :=
    next x { v with files } l l' alike
  simp only [Action.bind, first v l l' alike, second]

theorem indifferent_forEach {f : α → Action Unit} (each : ∀ x, (f x).Indifferent) (items : List α) :
    (forEach f items).Indifferent := by
  induction items with
  | nil => exact indifferent_pure ()
  | cons item rest ih => exact (each item).bind fun _ => ih

/-- **A start comes to the same** if what is made of its answer is the same for answers that
differ in carriage returns. -/
theorem indifferent_start {s : Start} {f : Answer → Action β}
    (same : ∀ a b, a.Returned b → f b = f a) (next : ∀ a, (f a).Indifferent) :
    (start s >>= f).Indifferent := by
  intro v l l' alike
  have answers := alike v s
  show Action.bind (start s) f ⟨v, l'⟩ = Action.bind (start s) f ⟨v, l⟩
  simp only [Action.bind, start]
  generalize l v s = x, l' v s = y at answers
  cases answers with
  | none => rfl
  | @some a b answered =>
    obtain ⟨a, files⟩ := a
    obtain ⟨b, files'⟩ := b
    obtain ⟨returned, rfl⟩ := answered
    dsimp only at returned ⊢
    rw [same a b returned]
    have second := next a { v with files } l l' alike
    simp only [World.withFiles, second]

theorem Indifferent.orLaunchFailure {a : Action α} (h : a.Indifferent) :
    a.orLaunchFailure.Indifferent := by
  have tried : a.attempt.Indifferent := by
    intro v l l' alike
    simp only [attempt, h v l l' alike]
  refine tried.bind fun came => ?_
  split
  · exact indifferent_pure _
  · exact indifferent_fail _
  · exact indifferent_pure _

end Action

/-! ## Checks -/

open OwnerBuild.Action (Indifferent)

theorem owners_indifferent (settings : Settings) (root : Path) (name : String) :
    (owners settings root name).Indifferent := by
  unfold owners
  split
  · exact (Action.indifferent_note _).bind fun _ => Action.indifferent_pure _
  · refine (Action.indifferent_ofExcept _).bind fun _ => ?_
    refine (Action.indifferent_note _).bind fun _ => Action.indifferent_start ?_ ?_
    · intro a b returned
      cases returned with
      | refused e => rfl
      | finished status written told => simp only [written.labels_eq]
    · intro a
      cases a with
      | refused e => exact Action.indifferent_fail _
      | finished output errors status =>
        dsimp only
        split
        · exact (Action.indifferent_note _).bind fun _ => Action.indifferent_pure _
        · exact Action.indifferent_pure _

namespace Checker

variable (c : Checker) (path : Path)

theorem ownersOf_indifferent (w : Workspace) : (c.ownersOf w path).Indifferent := by
  have named : (nameInside w path).Indifferent := fun _ _ _ _ => rfl
  exact named.bind fun name => owners_indifferent c.settings w.root name

theorem prepare_indifferent : (c.prepare path).Indifferent := by
  refine (Action.indifferent_look _).bind fun found => ?_
  cases found with
  | none => exact Action.indifferent_pure _
  | some w => exact (ownersOf_indifferent c path w).bind fun _ => Action.indifferent_pure _

theorem command_indifferent : (c.command path).Indifferent := by
  refine (prepare_indifferent c path).bind fun prepared => ?_
  cases prepared with
  | none => exact Action.indifferent_pure _
  | some p => exact (Action.indifferent_ofExcept _).bind fun _ => Action.indifferent_pure _

theorem conclude_indifferent (p : Prepared) (command : List String) (output errors : List UInt8)
    (status : Int) : (conclude path p command output errors status).Indifferent :=
  (Action.indifferent_forEach (fun _ => Action.indifferent_note _) _).bind fun _ =>
    (Action.indifferent_note _).bind fun _ => Action.indifferent_pure _

theorem build_indifferent (p : Prepared) : (c.build path p).Indifferent := by
  refine (Action.indifferent_ofExcept _).bind fun command =>
    (Action.indifferent_note _).bind fun _ => Action.indifferent_start ?_ ?_
  · intro a b returned
    cases returned with
    | refused e => rfl
    | finished status written told => simp only [conclude, written.records_eq told]
  · intro a
    cases a with
    | refused e => exact Action.indifferent_fail _
    | finished output errors status => exact conclude_indifferent path p command output errors status

theorem check_indifferent : (c.check path).Indifferent := by
  refine (prepare_indifferent c path).bind fun prepared => ?_
  cases prepared with
  | none => exact (Action.indifferent_note _).bind fun _ => Action.indifferent_pure _
  | some p => exact (build_indifferent c path p).bind fun _ => Action.indifferent_pure _

theorem report_indifferent : (c.report path).Indifferent := by
  refine (Action.indifferent_look _).bind fun found => ?_
  cases found with
  | none => exact Action.indifferent_pure _
  | some w =>
    exact (ownersOf_indifferent c path w).orLaunchFailure.bind fun _ => Action.indifferent_pure _

/-- **Line ends make no difference to a check.** With launchers that answer alike, but for
carriage returns put in front of any of the line feeds that programs write, looking up what to
build, showing the build, checking and reporting have the same outcomes; and a launcher whose
programs put one in front of every line feed is such a launcher. -/
theorem lineEnds :
    (∀ l : Launcher, l.Returned l.withReturns) ∧
    ∀ (c : Checker) (path : Path) (v : View) (l l' : Launcher), l.Returned l' →
      (c.prepare path).run ⟨v, l'⟩ = (c.prepare path).run ⟨v, l⟩ ∧
      (c.command path).run ⟨v, l'⟩ = (c.command path).run ⟨v, l⟩ ∧
      (c.check path).run ⟨v, l'⟩ = (c.check path).run ⟨v, l⟩ ∧
      (c.report path).run ⟨v, l'⟩ = (c.report path).run ⟨v, l⟩ := by
  refine ⟨Launcher.returned_withReturns, ?_⟩
  intro c path v l l' alike
  exact ⟨prepare_indifferent c path v l l' alike, command_indifferent c path v l l' alike,
    check_indifferent c path v l l' alike, report_indifferent c path v l l' alike⟩

/-- A build tool that breaks off in the middle of a character, ends its lines either way and
does not find a name. -/
def sampleTool : Launcher := .ofAnswers fun s =>
  if s.command[1]? = some "query" then
    .finished ([0xe2, 0x82] ++ Text.encode "\n//:lib\r\n") [] 0
  else
    let place : Rustc.Span := ⟨"lib.rs", 3, 3, 5, 8, true, none⟩
    let record : Rustc.Message := { message := "no name", level := "error", spans := [place] }
    .finished (Text.encode "Loading\n")
      (Text.encode (String.ofList record.toValue.write) ++ Text.encode "\n") 1

/-- With this tool a check builds two targets and finds the error; and the same comes of it when
every line ends with a carriage return and a line feed. -/
theorem lineEnds_sample :
    sampleTool.Returned sampleTool.withReturns ∧
      (check ⟨"bazel", {}, .rustcJson⟩ (.ofText "/ws/lib.rs")).run
          ⟨sampleView, sampleTool.withReturns⟩ =
        (check ⟨"bazel", {}, .rustcJson⟩ (.ofText "/ws/lib.rs")).run ⟨sampleView, sampleTool⟩ ∧
      ((check ⟨"bazel", {}, .rustcJson⟩ (.ofText "/ws/lib.rs")).run
          ⟨sampleView, sampleTool⟩).result.toOption.join.map
        (fun r => (r.targets, r.diagnostics.map (·.message))) =
          some (["\ufffd", "//:lib"], ["no name"]) :=
  ⟨lineEnds.1 _, (lineEnds.2 _ _ _ _ _ (lineEnds.1 _)).2.2.1, by decide +kernel⟩

end Checker

end OwnerBuild
