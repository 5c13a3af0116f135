/-
# OwnerBuild.Proofs.Watch.InTurn -- changed paths, each checked as if it were alone

Changed paths are checked in the order of paths, and each is told in a block of its own: what its
checks let be seen, a header and a line for each diagnostic, or the line that a program could
not be run, or the line that there is nothing to check (`checkChangedPath_run`). That a program
cannot be run is told in the block and ends nothing. A path for which the search for a workspace
fails has no block and ends the whole turn, so the paths behind it are not checked at all.

`checkChanged_inTurn` states this for all sets of paths next to what checking each path alone
lets be seen, with the exact condition for no path to be left out.
-/

import OwnerBuild.Proofs.Cli.Checked
import OwnerBuild.Proofs.Cli.ShownBuild
import OwnerBuild.Proofs.Path.Order
import OwnerBuild.Watch.Changes

namespace OwnerBuild.Watch

open Console (Item)
open Markup (EmojiTable)

variable {r : Registry} {path : Path} {w : World} {c : Checker} {checkers : List Checker}

/-! ## One path -/

/-- The lines that tell what came of checking a path. -/
def told [EmojiTable] (path : Path) : Except Failure (Option CheckResult) → List Item
  | .error e => [Cli.launchLine e]
  | .ok none => []
  | .ok (some result) =>
    headerLine path result.diagnostics.length :: result.diagnostics.map diagnosticLine

/-- The lines about a path for one of its checkers. -/
def linesOf [EmojiTable] (path : Path) (w : World) (c : Checker) : List Item :=
  told path ((c.check path).run w).result

/-- What is seen of a path for one of its checkers. -/
def block [EmojiTable] (path : Path) (w : World) (c : Checker) : List Event :=
  ((c.check path).run w).events ++ (linesOf path w c).map .printed

/-- What is seen of a path for all of its checkers. -/
def blocks [EmojiTable] (path : Path) (w : World) (checkers : List Checker) : List Event :=
  checkers.flatMap (block path w) ++
    if checkers.all fun c => (linesOf path w c).isEmpty then [.printed (nothingLine path)] else []

/-- What came of a check is told line by line, and whether there was a line is passed on. -/
theorem tellEach_cons [EmojiTable] (path : Path) (c : Checker) (rest : List Checker) :
    tellEach path (c :: rest) = do
      let came ← (c.check path).orLaunchFailure
      Action.forEach Action.print (told path came)
      let others ← tellEach path rest
      return !(told path came).isEmpty || others := by
  rw [tellEach]
  congr 1
  funext came w
  match came with
  | .error e => rfl
  | .ok none => rfl
  | .ok (some result) =>
    have lines : printResult path result w = ⟨.ok (), w.view.files,
        (told path (.ok (some result))).map .printed⟩ := by
      rw [printResult, Action.bind_undisturbed (Action.print_run _),
        Action.forEach_print_run diagnosticLine]
      simp [told]
    dsimp only
    rw [Action.bind_undisturbed lines, Action.bind_undisturbed (Action.printAll_run _)]
    rfl

/-- That each of some checks has a result, or says that its program could not be run, and leaves
the files alone. -/
def Tellable (path : Path) (w : World) (checkers : List Checker) : Prop :=
  ∀ c ∈ checkers, (∃ result events, c.check path w = ⟨.ok result, w.view.files, events⟩) ∨
    ∃ executable reason events,
      c.check path w = ⟨.error (.launch executable reason), w.view.files, events⟩

/-- **Each checker is told whatever came of the others.** -/
theorem tellEach_run [EmojiTable] (tellable : Tellable path w checkers) :
    tellEach path checkers w = ⟨.ok (checkers.any fun c => !(linesOf path w c).isEmpty),
      w.view.files, checkers.flatMap (block path w)⟩ := by
  induction checkers with
  | nil => rfl
  | cons c rest ih =>
    obtain ⟨first, others⟩ := List.forall_mem_cons.mp tellable
    have came : (c.check path).orLaunchFailure w =
        ⟨.ok ((c.check path).run w).result, w.view.files, ((c.check path).run w).events⟩ := by
      rw [Action.run]
      rcases first with ⟨result, events, check⟩ | ⟨executable, reason, events, check⟩
      · rw [Action.orLaunchFailure_ok check, check]
      · rw [Action.orLaunchFailure_launch check, check]
    rw [tellEach_cons, Action.bind_undisturbed came,
      Action.bind_undisturbed (Action.printAll_run _), Action.bind_pure_run (ih others)]
    simp [block, linesOf, Except.map]

/-- The checks of a path that was searched for a workspace can be told. -/
theorem tellable_of_located {v : View} {answer : Start → Answer} {found : Option Workspace}
    (located : v.workspace? path = .ok found) (checkers : List Checker) :
    Tellable path (.answering v answer) checkers := by
  intro c _
  have run : Checker.CheckRun c v answer path found (c.check path (.answering v answer)) :=
    Checker.check_run located
  rcases run.ok_or_launch with ⟨result, events, check⟩ | ⟨reason, events, check⟩
  · exact .inl ⟨result, events, check⟩
  · exact .inr ⟨_, reason, events, check⟩

/-- The checkers that apply to a path can be told. -/
theorem tellable_of_applicable {v : View} {answer : Start → Answer}
    (applicable : r.applicable v path = .ok checkers) :
    Tellable path (.answering v answer) checkers := by
  unfold Registry.applicable at applicable
  split at applicable
  · obtain rfl := Except.ok.inj applicable
    exact fun _ member => absurd member List.not_mem_nil
  · cases located : v.workspace? path with
    | error e =>
      rw [Checker.enabled, located] at applicable
      cases applicable
    | ok found => exact tellable_of_located located checkers

/-- **A path that can be looked up is told in one block**, whatever comes of its checks. -/
theorem checkChangedPath_run [EmojiTable] (applicable : r.applicable w.view path = .ok checkers)
    (tellable : Tellable path w checkers) :
    checkChangedPath r path w = ⟨.ok (), w.view.files, blocks path w checkers⟩ := by
  rw [checkChangedPath, Action.bind_undisturbed (Registry.applicableTo_run applicable),
    Action.bind_undisturbed (tellEach_run tellable), blocks]
  have untold : (checkers.all fun c => (linesOf path w c).isEmpty) =
      !(checkers.any fun c => !(linesOf path w c).isEmpty) := by
    simp [List.all_eq_not_any_not]
  rw [untold]
  cases checkers.any fun c => !(linesOf path w c).isEmpty <;> rfl

/-- A path that cannot be looked up is not told. -/
theorem checkChangedPath_failed [EmojiTable] {e : LookupError}
    (failed : r.applicable w.view path = .error e) :
    checkChangedPath r path w = ⟨.error (.lookup e), w.view.files, []⟩ := by
  have asked : r.applicableTo path w = ⟨.error (.lookup e), w.view.files, []⟩ := by
    show (⟨(r.applicable w.view path).mapError .lookup, w.view.files, []⟩ : Outcome _) = _
    rw [failed]
    rfl
  rw [checkChangedPath, Action.bind_failed asked]

/-- Something is told of every path that can be looked up. -/
theorem blocks_printed [EmojiTable] (path : Path) (w : World) (checkers : List Checker) :
    (blocks path w checkers).filterMap Event.item? ≠ [] := by
  rw [blocks]
  split
  · simp
  · next some =>
    obtain ⟨c, member, lines⟩ : ∃ c ∈ checkers, linesOf path w c ≠ [] := by simpa using some
    obtain ⟨item, isLine⟩ := List.exists_mem_of_ne_nil _ lines
    have isTold : Event.printed item ∈ checkers.flatMap (block path w) :=
      List.mem_flatMap.mpr
        ⟨c, member, List.mem_append_right _ (List.mem_map.mpr ⟨item, isLine, rfl⟩)⟩
    rw [List.append_nil]
    exact List.ne_nil_of_mem (List.mem_filterMap.mpr ⟨_, isTold, rfl⟩)

theorem checkChanged_singleton [EmojiTable] (r : Registry) (path : Path) :
    checkChanged r [path] = checkChangedPath r path := by
  rw [checkChanged, Path.sortedSet_singleton]
  exact Action.bind_pure (checkChangedPath r path)

/-! ## Several paths -/

/-- Whether it can be found out which checkers apply to a path. -/
def canLookUp (r : Registry) (v : View) (path : Path) : Bool := (r.applicable v path).isOk

theorem canLookUp_iff {v : View} :
    canLookUp r v path = true ↔ ∃ checkers, r.applicable v path = .ok checkers := by
  unfold canLookUp
  cases r.applicable v path <;> simp [Except.isOk, Except.toBool]

theorem canLookUp_eq_false_iff {v : View} :
    canLookUp r v path = false ↔ ∃ e, r.applicable v path = .error e := by
  unfold canLookUp
  cases r.applicable v path <;> simp [Except.isOk, Except.toBool]

/-- In a sorted list nothing fine comes behind something that is not fine exactly if everything
fine is before it in the order. -/
theorem dropWhile_not_fine_iff {paths : List Path} (fine : Path → Bool)
    (sorted : paths.Pairwise (Path.le · ·)) :
    (∀ q ∈ paths.dropWhile fine, fine q = false) ↔
      ∀ p ∈ paths, ∀ q ∈ paths, fine p = false → fine q = true → q.le p = true := by
  induction paths with
  | nil => simp
  | cons first rest ih =>
    obtain ⟨before, sorted⟩ := List.pairwise_cons.mp sorted
    cases isFine : fine first with
    | true =>
      rw [List.dropWhile_cons_of_pos isFine, ih sorted]
      constructor
      · intro order p member q member' isNot fine'
        rcases List.mem_cons.mp member with rfl | behind
        · rw [isFine] at isNot
          cases isNot
        · rcases List.mem_cons.mp member' with rfl | behind'
          · exact before p behind
          · exact order p behind q behind' isNot fine'
      · intro order p member q member'
        exact order p (.tail _ member) q (.tail _ member')
    | false =>
      rw [List.dropWhile_cons_of_neg (by simp [isFine])]
      constructor
      · intro none p _ q member _ fine'
        rw [none q member] at fine'
        cases fine'
      · intro order q member
        rcases List.mem_cons.mp member with rfl | behind
        · exact isFine
        · -- something fine behind the first one would be the first one
          cases fine' : fine q with
          | false => rfl
          | true =>
            have same : q = first :=
              Path.le_antisymm (order first (.head _) q member isFine fine') (before q behind)
            rw [same, isFine] at fine'
            cases fine'

theorem flatMap_takeWhile_eq_iff {α β : Type} {f : α → List β} {fine : α → Bool} {items : List α}
    (visible : ∀ x, f x = [] ↔ fine x = false) :
    (items.takeWhile fine).flatMap f = items.flatMap f ↔
      ∀ x ∈ items.dropWhile fine, fine x = false := by
  have split := List.takeWhile_append_dropWhile (p := fine) (l := items)
  calc (items.takeWhile fine).flatMap f = items.flatMap f
      ↔ (items.takeWhile fine).flatMap f =
          (items.takeWhile fine).flatMap f ++ (items.dropWhile fine).flatMap f := by
        rw [← List.flatMap_append, split]
    _ ↔ ∀ x ∈ items.dropWhile fine, f x = [] := by
        rw [List.self_eq_append_right, List.flatMap_eq_nil_iff]
    _ ↔ ∀ x ∈ items.dropWhile fine, fine x = false := forall₂_congr fun x _ => visible x

section World

variable [EmojiTable] {v : View} {answer : Start → Answer}

/-- What is seen of a path alone. -/
theorem checkChanged_alone (applicable : r.applicable v path = .ok checkers) :
    checkChanged r [path] (.answering v answer) =
      ⟨.ok (), v.files, blocks path (.answering v answer) checkers⟩ := by
  rw [checkChanged_singleton]
  exact checkChangedPath_run applicable (tellable_of_applicable applicable)

theorem checkChanged_alone_failed {e : LookupError} (failed : r.applicable v path = .error e) :
    checkChanged r [path] (.answering v answer) = ⟨.error (.lookup e), v.files, []⟩ := by
  rw [checkChanged_singleton]
  exact checkChangedPath_failed failed

/-- **Several paths are checked one after the other**, each as if it were alone, up to the first
that cannot be looked up. -/
theorem checkChanged_run (v : View) (answer : Start → Answer) (r : Registry) (paths : List Path) :
    checkChanged r paths (.answering v answer) =
      ⟨((Path.sortedSet paths).find? (!canLookUp r v ·)).elim (.ok ()) fun p =>
        (checkChanged r [p] (.answering v answer)).result, v.files,
      ((Path.sortedSet paths).takeWhile (canLookUp r v)).flatMap fun p =>
        (checkChanged r [p] (.answering v answer)).events⟩ := by
  simp only [checkChanged_singleton]
  rw [checkChanged]
  apply Action.forEach_run (w := .answering v answer) (checkChangedPath r) (canLookUp r v)
  · intro p fine
    obtain ⟨checkers, applicable⟩ := canLookUp_iff.mp fine
    rw [checkChangedPath_run (w := .answering v answer) applicable
      (tellable_of_applicable applicable)]
  · intro p failing
    obtain ⟨e, failed⟩ := canLookUp_eq_false_iff.mp failing
    exact ⟨_, checkChangedPath_failed failed⟩

/-- A path that can be looked up is told alone, whatever comes of its checks. -/
theorem told_alone (answer : Start → Answer) (fine : canLookUp r v path = true) :
    ((checkChanged r [path]).run (.answering v answer)).result = .ok () ∧
      ((checkChanged r [path]).run (.answering v answer)).printed ≠ [] := by
  obtain ⟨checkers, applicable⟩ := canLookUp_iff.mp fine
  rw [Action.run, checkChanged_alone applicable]
  exact ⟨rfl, blocks_printed path _ checkers⟩

theorem untold_alone (answer : Start → Answer) (failing : canLookUp r v path = false) :
    (∃ e, ((checkChanged r [path]).run (.answering v answer)).result = .error (.lookup e)) ∧
      ((checkChanged r [path]).run (.answering v answer)).events = [] := by
  obtain ⟨e, failed⟩ := canLookUp_eq_false_iff.mp failing
  rw [Action.run, checkChanged_alone_failed failed]
  exact ⟨⟨e, rfl⟩, rfl⟩

/-- Nothing is seen of exactly the paths that cannot be looked up. -/
theorem silent_alone_iff :
    ((checkChanged r [path]).run (.answering v answer)).events = [] ↔
      canLookUp r v path = false := by
  cases fine : canLookUp r v path with
  | true =>
    refine iff_of_false (fun none => (told_alone answer fine).2 ?_) Bool.noConfusion
    rw [Outcome.printed, none, List.filterMap_nil]
  | false => exact iff_of_true (untold_alone answer fine).2 rfl

/-- Several paths are all checked exactly if each of them can be looked up. -/
theorem checkChanged_ok_iff {paths : List Path} :
    ((checkChanged r paths).run (.answering v answer)).result = .ok () ↔
      ∀ p ∈ paths, canLookUp r v p = true := by
  have all_iff := List.find?_eq_none (p := (!canLookUp r v ·)) (l := Path.sortedSet paths)
  simp only [Path.mem_sortedSet, Bool.not_eq_true', Bool.not_eq_false] at all_iff
  rw [← all_iff, Action.run, checkChanged_run]
  cases first : (Path.sortedSet paths).find? (!canLookUp r v ·) with
  | none => exact iff_of_true rfl rfl
  | some p =>
    have failing : canLookUp r v p = false := by simpa using List.find?_some first
    obtain ⟨⟨e, failed⟩, _⟩ := untold_alone answer failing
    refine iff_of_false ?_ (Option.some_ne_none p)
    intro ok
    cases failed.symm.trans ok

end World

/-- What checking changed paths together lets be seen, next to what checking each of them alone
lets be seen. -/
structure InTurn (r : Registry) (v : View) (paths : List Path) (alone : Path → Outcome Unit)
    (together : Outcome Unit) : Prop where
  /-- Each of the paths has one turn, and the turns are in the order of paths. -/
  turns : (Path.sortedSet paths).Nodup ∧ (Path.sortedSet paths).Pairwise (Path.le · ·) ∧
    ∀ p, p ∈ Path.sortedSet paths ↔ p ∈ paths
  /-- Alone, a path that can be looked up is checked to the end, whichever programs cannot be
  run, and something is printed. -/
  told : ∀ p, canLookUp r v p = true → (alone p).result = .ok () ∧ (alone p).printed ≠ []
  /-- Alone, a path that cannot be looked up lets nothing be seen. -/
  untold : ∀ p, canLookUp r v p = false →
    (∃ e, (alone p).result = .error (.lookup e)) ∧ (alone p).events = []
  /-- Together, there is the block of each path up to the first that cannot be looked up. -/
  events_eq : together.events =
    ((Path.sortedSet paths).takeWhile (canLookUp r v)).flatMap fun p => (alone p).events
  /-- All blocks are there exactly if none that can be looked up is behind one that cannot. -/
  complete_iff : together.events = (Path.sortedSet paths).flatMap (fun p => (alone p).events) ↔
    ∀ p ∈ paths, ∀ q ∈ paths, canLookUp r v p = false → canLookUp r v q = true → q.le p = true
  /-- It all ends well exactly if every path can be looked up. -/
  ok_iff : together.result = .ok () ↔ ∀ p ∈ paths, canLookUp r v p = true

/-- **Changed paths are checked in turn**, each as if it were alone, but not behind one that cannot
be looked up. In a world whose programs answer by command and directory alone. -/
theorem checkChanged_inTurn [EmojiTable] (r : Registry) (v : View) (answer : Start → Answer)
    (paths : List Path) :
    InTurn r v paths (fun p => (checkChanged r [p]).run (.answering v answer))
      ((checkChanged r paths).run (.answering v answer)) := by
  have events_eq : ((checkChanged r paths).run (.answering v answer)).events =
      ((Path.sortedSet paths).takeWhile (canLookUp r v)).flatMap fun p =>
        ((checkChanged r [p]).run (.answering v answer)).events :=
    congrArg Outcome.events (checkChanged_run v answer r paths)
  refine
    { turns := ⟨Path.sortedSet_nodup paths, Path.sortedSet_sorted paths, fun _ => Path.mem_sortedSet⟩
      told := fun _ => told_alone answer
      untold := fun _ => untold_alone answer
      events_eq := events_eq
      complete_iff := ?complete
      ok_iff := checkChanged_ok_iff }
  case complete =>
    have order := dropWhile_not_fine_iff (canLookUp r v) (Path.sortedSet_sorted paths)
    simp only [Path.mem_sortedSet] at order
    rw [events_eq]
    exact (flatMap_takeWhile_eq_iff fun _ => silent_alone_iff).trans order

/-- A workspace with a link that leads to itself and a file behind it in the order of paths. -/
def selfLinkView : View :=
  { files := ⟨[("WORKSPACE", .file "" false), ("a.rs", .link "a.rs"), ("b.rs", .file "" false)]⟩
    directory := [] }

/-- The file is checked alone and not behind the link. -/
theorem checkChanged_behind_link :
    ((checkChanged Checker.soleRegistry [.ofText "/b.rs"]).run
        (.answering selfLinkView Checker.sampleAnswer)).starts.length = 2 ∧
      ((checkChanged Checker.soleRegistry [.ofText "/a.rs", .ofText "/b.rs"]).run
        (.answering selfLinkView Checker.sampleAnswer)).result = .error (.lookup .linkLoop) ∧
      ((checkChanged Checker.soleRegistry [.ofText "/a.rs", .ofText "/b.rs"]).run
        (.answering selfLinkView Checker.sampleAnswer)).events = [] := by
  have order : Path.sortedSet [.ofText "/a.rs", .ofText "/b.rs"] =
      [.ofText "/a.rs", .ofText "/b.rs"] :=
    Path.sortedSet_eq_self (by decide +kernel) (by decide +kernel)
  rw [checkChanged_singleton, checkChanged, order]
  decide +kernel

end OwnerBuild.Watch
