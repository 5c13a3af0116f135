/-
# OwnerBuild.Proofs.Checker.Series -- one check after the other

A path is checked with several checkers in order, and the first check that fails is the
last one. `Series` lists the ways in which that can go, without a word on what is made of it:
the result of the whole is the results of the checks that had one, or the first failure. A
loop over checkers is understood once it is shown to follow a series; what a series comes to
is said here in terms of the single checks alone (`failure_iff`, `results_eq`).

Programs answer by command and directory, so each check leaves the files alone and the next one
is run in the same world.
-/

import OwnerBuild.Proofs.Checker.Runs

namespace OwnerBuild.Checker

/-! ## A single check -/

section Single

variable {c : Checker} {v : View} {answer : Start → Answer} {path : Path}
  {found : Option Workspace}

/-- A check has a result, or says that the executable could not be run. -/
theorem CheckRun.ok_or_launch {o : Outcome (Option CheckResult)}
    (h : CheckRun c v answer path found o) :
    (∃ result events, o = ⟨.ok result, v.files, events⟩) ∨
      ∃ reason events, o = ⟨.error (.launch c.settings.executable reason), v.files, events⟩ := by
  cases h with
  | idle lookups => exact .inl ⟨_, _, rfl⟩
  | failed lookups =>
    cases lookups with
    | refused named asked refusal => exact .inr ⟨_, _, rfl⟩
  | refused lookups built refusal => exact .inr ⟨_, _, rfl⟩
  | finished lookups built ran => exact .inl ⟨_, _, rfl⟩

end Single

/-- The result of a check, if there was something to check. -/
def result? (path : Path) (w : World) (c : Checker) : Option CheckResult :=
  match ((c.check path).run w).result with
  | .ok result => result
  | .error _ => none

/-- That a failure is the one of the first check that fails: those before it have gone well. -/
def FirstFailure (path : Path) (w : World) (checkers : List Checker) (e : Failure) : Prop :=
  ∃ before c after, checkers = before ++ c :: after ∧
    (∀ d ∈ before, ∃ result, ((d.check path).run w).result = .ok result) ∧
    ((c.check path).run w).result = .error e

section Several

variable {path : Path} {w : World} {c : Checker} {rest : List Checker} {e : Failure}

theorem not_firstFailure_nil : ¬ FirstFailure path w [] e := by
  rintro ⟨before, c, after, split, -, -⟩
  exact absurd split (by simp)

/-- The first check is the one that fails first, or it goes well and one of the others is. -/
theorem firstFailure_cons : FirstFailure path w (c :: rest) e ↔
    ((c.check path).run w).result = .error e ∨
      (∃ result, ((c.check path).run w).result = .ok result) ∧ FirstFailure path w rest e := by
  constructor
  · rintro ⟨before, d, after, split, fine, failed⟩
    cases before with
    | nil =>
      obtain ⟨rfl, -⟩ := List.cons.inj split
      exact .inl failed
    | cons first before =>
      obtain ⟨rfl, others⟩ := List.cons.inj split
      obtain ⟨ok, fine⟩ := List.forall_mem_cons.mp fine
      exact .inr ⟨ok, before, d, after, others, fine, failed⟩
  · rintro (failed | ⟨ok, before, d, after, rfl, fine, failed⟩)
    · exact ⟨[], c, rest, rfl, by simp, failed⟩
    · exact ⟨c :: before, d, after, rfl, List.forall_mem_cons.mpr ⟨ok, fine⟩, failed⟩

/-! ## Series -/

/-- How the checks of a path with some checkers go, what comes of them and what is seen. -/
inductive Series (path : Path) (w : World) :
    List Checker → Except Failure (List (Checker × CheckResult)) → List Event → Prop
  | done : Series path w [] (.ok []) []
  | failed {c : Checker} {rest : List Checker} {executable reason : String} {events : List Event}
      (check : c.check path w = ⟨.error (.launch executable reason), w.view.files, events⟩) :
      Series path w (c :: rest) (.error (.launch executable reason)) events
  | idle {c : Checker} {rest : List Checker} {events later : List Event}
      {results : Except Failure (List (Checker × CheckResult))}
      (check : c.check path w = ⟨.ok none, w.view.files, events⟩)
      (others : Series path w rest results later) :
      Series path w (c :: rest) results (events ++ later)
  | checked {c : Checker} {rest : List Checker} {result : CheckResult} {events later : List Event}
      {results : Except Failure (List (Checker × CheckResult))}
      (check : c.check path w = ⟨.ok (some result), w.view.files, events⟩)
      (others : Series path w rest results later) :
      Series path w (c :: rest) (results.map ((c, result) :: ·)) (events ++ later)

/-- **Checks with any checkers go in some series.** -/
theorem exists_series {v : View} {answer : Start → Answer} {found : Option Workspace}
    (located : v.workspace? path = .ok found) (checkers : List Checker) :
    ∃ results events, Series path (.answering v answer) checkers results events := by
  induction checkers with
  | nil => exact ⟨_, _, .done⟩
  | cons c rest ih =>
    obtain ⟨results, later, others⟩ := ih
    have run : CheckRun c v answer path found (c.check path (.answering v answer)) :=
      check_run located
    rcases run.ok_or_launch with ⟨result, events, check⟩ | ⟨reason, events, check⟩
    · cases result with
      | none => exact ⟨_, _, .idle check others⟩
      | some result => exact ⟨_, _, .checked check others⟩
    · exact ⟨_, _, .failed check⟩

namespace Series

variable {checkers : List Checker} {events : List Event}
  {results : Except Failure (List (Checker × CheckResult))}

/-- **A series fails with the first failure among its checks**, if there is one. -/
theorem failure_iff (h : Series path w checkers results events) :
    FirstFailure path w checkers e ↔ results = .error e := by
  induction h with
  | done => simp [not_firstFailure_nil]
  | failed check => simp [firstFailure_cons, Action.run, check]
  | idle check others ih =>
    rw [← ih]
    simp [firstFailure_cons, Action.run, check]
  | @checked c rest result events later results check others ih =>
    -- a result in front makes a failure of the others no other failure
    have kept : results.map ((c, result) :: ·) = .error e ↔ results = .error e := by
      cases results <;> simp [Except.map]
    rw [kept, ← ih]
    simp [firstFailure_cons, Action.run, check]

/-- A series only fails because an executable could not be run. -/
theorem launch_of_error (h : Series path w checkers (.error e) events) :
    ∃ executable reason, e = .launch executable reason := by
  -- the failure is the one of the end of the series, so it is kept through the induction
  generalize failed : Except.error e = results at h
  induction h with
  | done => cases failed
  | @failed c rest executable reason events check =>
    exact ⟨executable, reason, Except.error.inj failed⟩
  | idle check others ih => exact ih failed
  | @checked c rest result events later results check others ih =>
    cases results with
    | error e' => exact ih failed
    | ok results => cases failed

/-- **A series that does not fail has the results of its checks**, in order. -/
theorem results_eq {found : List (Checker × CheckResult)}
    (h : Series path w checkers (.ok found) events) :
    found.map (·.2) = checkers.filterMap (result? path w) := by
  generalize fine : Except.ok found = results at h
  induction h generalizing found with
  | done =>
    obtain rfl := Except.ok.inj fine
    rfl
  | failed check => cases fine
  | @idle c rest events later results check others ih =>
    -- a check without a result is passed over on both sides
    have none : result? path w c = none := by
      rw [result?, Action.run, check]
    rw [List.filterMap_cons_none none]
    exact ih fine
  | @checked c rest result events later results check others ih =>
    have some : result? path w c = some result := by
      rw [result?, Action.run, check]
    cases results with
    | error e => cases fine
    | ok behind =>
      obtain rfl := Except.ok.inj fine
      rw [List.filterMap_cons_some some, List.map_cons, ih rfl]

/-- A series that does not fail has no result exactly if there is nothing to check for any
checker. -/
theorem results_eq_nil_iff {found : List (Checker × CheckResult)}
    (h : Series path w checkers (.ok found) events) :
    found = [] ↔ ∀ c ∈ checkers, ((c.check path).run w).result = .ok none := by
  generalize fine : Except.ok found = results at h
  induction h generalizing found with
  | done =>
    obtain rfl := Except.ok.inj fine
    simp
  | failed check => cases fine
  | @idle c rest events later results check others ih =>
    rw [List.forall_mem_cons, ih fine]
    simp [Action.run, check]
  | @checked c rest result events later results check others ih =>
    cases results with
    | error e => cases fine
    | ok behind =>
      obtain rfl := Except.ok.inj fine
      simp [Action.run, check]

/-- Checks print nothing. -/
theorem printed_eq_nil {v : View} {answer : Start → Answer} {found : Option Workspace}
    (located : v.workspace? path = .ok found)
    (h : Series path (.answering v answer) checkers results events) :
    events.filterMap Event.item? = [] := by
  have silent : ∀ (c : Checker) (o : Outcome (Option CheckResult)),
      c.check path (.answering v answer) = o → o.events.filterMap Event.item? = [] := by
    rintro c _ rfl
    exact (check_run located).printed_eq_nil
  induction h with
  | done => rfl
  | failed check => exact silent _ _ check
  | idle check others ih => rw [List.filterMap_append, silent _ _ check, ih, List.append_nil]
  | checked check others ih => rw [List.filterMap_append, silent _ _ check, ih, List.append_nil]

end Series

end Several

end OwnerBuild.Checker
