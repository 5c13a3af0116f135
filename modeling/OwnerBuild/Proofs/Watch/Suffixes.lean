/-
# OwnerBuild.Proofs.Watch.Suffixes -- which files are watched, and which are checked

A registry selects files by suffix in two places. The watcher passes a change on if the suffix of
the path and an extension of some checker are the same but for the case of letters (`Watches`). A
checker applies if the suffix in small letters is one of its extensions as they were written
(`Covered`). The suffix is lower-cased in both places, the extensions only in the first.

So no file that a checker applies to is ever ignored: what is in small letters stays as it is when
it is lower-cased with the other extensions (`watches_of_covered`). But a checker for an extension with
a capital in it applies to no file at all, not even to one with just this suffix, and the changes
that the watcher passes on for it come to nothing (`covered_capital`). The two rules select the same
files exactly if the small form of each extension is an extension too, those aside that are the
suffix of no path (`selection`).
-/

import OwnerBuild.Proofs.Registry.Registered
import OwnerBuild.Proofs.Text.SmallLetters
import OwnerBuild.Proofs.Watch.Batches

namespace OwnerBuild

variable {r : Registry} {path : Path} {v : View}

/-! ## The two rules -/

namespace Registry

/-- That some checker is for the suffix of a path. -/
def Covered (r : Registry) (path : Path) : Prop := ∃ c ∈ r.checkers, covers c path = true

theorem covered_iff_mem : r.Covered path ↔ Text.lowerString path.suffix ∈ r.extensions := by
  rw [mem_extensions]
  apply exists_congr
  intro c
  rw [covers, List.contains_iff_mem]

/-- That the suffix of a path is an extension of some checker, but for the case of letters. -/
def Watches (r : Registry) (path : Path) : Prop :=
  ∃ c ∈ r.checkers, ∃ e ∈ c.format.extensions,
    Text.lowerString e = Text.lowerString path.suffix

theorem watches_iff_exists_mem :
    r.Watches path ↔ ∃ e ∈ r.extensions, Text.lowerString e = Text.lowerString path.suffix := by
  constructor
  · rintro ⟨c, registered, e, isExtension, same⟩
    exact ⟨e, mem_extensions.mpr ⟨c, registered, isExtension⟩, same⟩
  · rintro ⟨e, isExtension, same⟩
    obtain ⟨c, registered, isExtension⟩ := mem_extensions.mp isExtension
    exact ⟨c, registered, e, isExtension, same⟩

/-- **What a checker is for is watched.** -/
theorem watches_of_covered (h : r.Covered path) : r.Watches path :=
  watches_iff_exists_mem.mpr ⟨_, covered_iff_mem.mp h, Text.lowerString_lowerString _⟩

/-- In a workspace the checkers that apply are those that are for the suffix. -/
theorem applicable_inside {w : Workspace} (located : v.workspace? path = .ok (some w)) :
    r.applicable v path = .ok (r.checkers.filter (covers · path)) :=
  applicable_of_located located

/-- A checker that applies is for the suffix. -/
theorem covered_of_applicable {checkers : List Checker} {c : Checker}
    (applicable : r.applicable v path = .ok checkers) (member : c ∈ checkers) :
    r.Covered path := by
  have among : c ∈ r.checkers.filter (covers · path) := by
    unfold Registry.applicable at applicable
    split at applicable
    · next none =>
      obtain rfl := Except.ok.inj applicable
      rwa [none]
    · cases enabled : Checker.enabled v path with
      | error e =>
        rw [enabled] at applicable
        cases applicable
      | ok isEnabled =>
        rw [enabled] at applicable
        cases isEnabled with
        | true =>
          obtain rfl := Except.ok.inj applicable
          exact member
        | false =>
          obtain rfl := Except.ok.inj applicable
          exact absurd member List.not_mem_nil
  obtain ⟨registered, covering⟩ := List.mem_filter.mp among
  exact ⟨c, registered, covering⟩

/-- **The two rules select the same files exactly if** the small form of each extension is an
extension too, those aside that no path has. -/
theorem watches_iff_covered_iff :
    (∀ path, r.Watches path ↔ r.Covered path) ↔
      ∀ e ∈ r.extensions, ∀ path : Path, Text.lowerString e = Text.lowerString path.suffix →
        Text.lowerString e ∈ r.extensions := by
  constructor
  · intro alike e isExtension path same
    have watched : r.Watches path := watches_iff_exists_mem.mpr ⟨e, isExtension, same⟩
    rw [same]
    exact covered_iff_mem.mp ((alike path).mp watched)
  · intro closed path
    refine ⟨fun watched => ?_, watches_of_covered⟩
    obtain ⟨e, isExtension, same⟩ := watches_iff_exists_mem.mp watched
    rw [covered_iff_mem, ← same]
    exact closed e isExtension path same

end Registry

namespace Watch

/-! ## What reaches the callback -/

theorem isWatched_iff : isWatched (watchedSuffixes r) path = true ↔ r.Watches path := by
  rw [isWatched, watchedSuffixes, List.contains_iff_mem, List.mem_map,
    Registry.watches_iff_exists_mem]

section Table

variable [Markup.EmojiTable]

/-- The sets that a callback is given hold what was not deleted and is watched. -/
theorem mem_calls_iff {directory : Path} {batches : List Batch} :
    (∃ set ∈ (watchPlan r directory).calls batches, path ∈ set) ↔
      (∃ batch ∈ batches, ∃ c ∈ batch, c.kind ≠ .deleted ∧ Path.ofText c.path = path) ∧
        r.Watches path := by
  have requested : ∀ batch : Batch, path ∈ changedPaths (watchPlan r directory).extensions batch ↔
      (∃ c ∈ batch, c.kind ≠ .deleted ∧ Path.ofText c.path = path) ∧ r.Watches path := by
    intro batch
    rw [mem_changedPaths, ← isWatched_iff]
    constructor
    · rintro ⟨c, member, kept, spelled, watched⟩
      exact ⟨⟨c, member, kept, spelled⟩, watched⟩
    · rintro ⟨⟨c, member, kept, spelled⟩, watched⟩
      exact ⟨c, member, kept, spelled, watched⟩
  constructor
  · rintro ⟨set, isCalled, member⟩
    obtain ⟨batch, isBatch, rfl⟩ := List.mem_map.mp (List.mem_filter.mp isCalled).1
    obtain ⟨change, watched⟩ := (requested batch).mp member
    exact ⟨⟨batch, isBatch, change⟩, watched⟩
  · rintro ⟨⟨batch, isBatch, change⟩, watched⟩
    -- a set with the path in it is not empty, so the callback is given it
    have member := (requested batch).mpr ⟨change, watched⟩
    refine ⟨_, List.mem_filter.mpr ⟨List.mem_map.mpr ⟨batch, isBatch, rfl⟩, ?_⟩, member⟩
    exact decide_eq_true (List.ne_nil_of_mem member)

/-- Which files a registry's watcher selects, next to which files its checkers are for. -/
structure Selection (r : Registry) : Prop where
  /-- The callback is given a path exactly if a change that is no deletion has it and it is
  watched. -/
  passed_iff : ∀ directory batches path,
    (∃ set ∈ (watchPlan r directory).calls batches, path ∈ set) ↔
      (∃ batch ∈ batches, ∃ c ∈ batch, c.kind ≠ .deleted ∧ Path.ofText c.path = path) ∧
        r.Watches path
  /-- No file that a checker is for is ignored, so none that a check would check. -/
  watched : ∀ path, r.Covered path → r.Watches path
  applied : ∀ v path checkers, r.applicable v path = .ok checkers → checkers ≠ [] →
    r.Watches path
  /-- A watched file has a checker for it exactly if its suffix in small letters is an extension. -/
  covered_iff : ∀ path, r.Covered path ↔
    r.Watches path ∧ Text.lowerString path.suffix ∈ r.extensions
  /-- The two rules are the same exactly if the small form of each extension is an extension too. -/
  alike_iff : (∀ path, r.Watches path ↔ r.Covered path) ↔
    ∀ e ∈ r.extensions, ∀ path : Path, Text.lowerString e = Text.lowerString path.suffix →
      Text.lowerString e ∈ r.extensions
  /-- They are for extensions in small letters. -/
  small : (∀ e ∈ r.extensions, Text.lowerString e = e) → ∀ path, r.Watches path ↔ r.Covered path
  /-- In a workspace a file that a checker is for is checked with it. -/
  checked : ∀ v path w, v.workspace? path = .ok (some w) →
    (r.Covered path ↔ ∃ c checkers, r.applicable v path = .ok (c :: checkers))
  /-- One that no checker is for comes to nothing, whether it is watched or not. -/
  unchecked : ∀ v answer path w, v.workspace? path = .ok (some w) → ¬ r.Covered path →
    (checkChanged r [path]).run (.answering v answer) =
      ⟨.ok (), v.files, [.printed (nothingLine path)]⟩

/-- **Every file that is checked is watched, and a watched file is checked if its suffix is an
extension in small letters.** -/
theorem selection (r : Registry) : Selection r where
  passed_iff := fun _ _ _ => mem_calls_iff
  watched := fun _ => Registry.watches_of_covered
  applied := by
    intro v path checkers applicable some
    obtain ⟨c, member⟩ := List.exists_mem_of_ne_nil _ some
    exact Registry.watches_of_covered (Registry.covered_of_applicable applicable member)
  covered_iff := by
    intro path
    rw [← Registry.covered_iff_mem]
    exact ⟨fun covered => ⟨Registry.watches_of_covered covered, covered⟩, And.right⟩
  alike_iff := Registry.watches_iff_covered_iff
  small := by
    intro small
    refine Registry.watches_iff_covered_iff.mpr fun e isExtension _ _ => ?_
    rwa [small e isExtension]
  checked := by
    intro v path w located
    have applicable := Registry.applicable_inside (r := r) located
    constructor
    · rintro ⟨c, registered, covering⟩
      have member : c ∈ r.checkers.filter (Registry.covers · path) :=
        List.mem_filter.mpr ⟨registered, covering⟩
      obtain ⟨first, rest, split⟩ := List.exists_cons_of_ne_nil (List.ne_nil_of_mem member)
      exact ⟨first, rest, by rw [applicable, split]⟩
    · rintro ⟨c, checkers, split⟩
      exact Registry.covered_of_applicable split (List.mem_cons_self)
  unchecked := by
    intro v answer path w located uncovered
    have none : r.checkers.filter (Registry.covers · path) = [] := by
      rw [List.filter_eq_nil_iff]
      exact fun c registered covering => uncovered ⟨c, registered, covering⟩
    have applicable := Registry.applicable_inside (r := r) located
    rw [none] at applicable
    rw [Action.run, checkChanged_alone applicable]
    rfl

end Table

/-- A checker for an extension in capitals. -/
def capitalRegistry : Registry :=
  ⟨[⟨Checker.standardName, {}, { Format.rustcJson with extensions := [".RS"] }⟩], by decide⟩

/-- A file with this suffix is watched, but no checker is for it, and when it changes there is
nothing to check. -/
theorem covered_capital :
    (watchPlan capitalRegistry (.ofText ".")).calls [[⟨.modified, "/ws/lib.RS"⟩]] =
        [[.ofText "/ws/lib.RS"]] ∧
      Checker.sampleView.workspace? (.ofText "/ws/lib.RS") = .ok (some ⟨.ofText "/ws"⟩) ∧
      (∀ c ∈ capitalRegistry.checkers, Registry.covers c (.ofText "/ws/lib.RS") = false) ∧
      capitalRegistry.applicable Checker.sampleView (.ofText "/ws/lib.RS") = .ok [] := by
  have sole : changedPaths (watchPlan capitalRegistry (.ofText ".")).extensions
      [⟨.modified, "/ws/lib.RS"⟩] = [.ofText "/ws/lib.RS"] := by
    have watched : isWatched (watchPlan capitalRegistry (.ofText ".")).extensions
        (.ofText "/ws/lib.RS") = true := by
      decide +kernel
    rw [changedPaths, List.filter_singleton]
    simp [watched]
  refine ⟨?_, by decide +kernel, by decide +kernel, by decide +kernel⟩
  rw [Plan.calls, List.map_singleton, sole]
  rfl

end Watch

end OwnerBuild
