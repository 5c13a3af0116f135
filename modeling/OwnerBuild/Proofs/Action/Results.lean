/-
# OwnerBuild.Proofs.Action.Results -- when an action has a result, and when it fails

An action in two steps has a result exactly if both have one, the second in the world that
the first one left, and it fails exactly if one of them does. These two facts
(`bind_result_eq_ok_iff`, `bind_result_eq_error_iff`) take an action apart into its steps
whatever launcher it runs with, also one that changes files or leaves a start without an
answer. Steps that leave the files alone are passed over by equations instead, so that
the steps behind them are seen in the same world.
-/

import OwnerBuild.Action

namespace OwnerBuild.Action

variable {α β : Type} {a : Action α} {f : α → Action β} {w : World}

/-! ## Steps -/

/-- Two steps have a result exactly if each of them has. -/
theorem bind_result_eq_ok_iff {y : β} : ((a >>= f) w).result = .ok y ↔
    ∃ x, (a w).result = .ok x ∧ (f x (w.withFiles (a w).files)).result = .ok y := by
  cases first : (a w).result with
  | error e =>
    rw [bind_apply_error first]
    simp
  | ok x =>
    rw [bind_apply_ok first]
    simp

/-- Two steps fail exactly if the first one does, or the second one behind its result. -/
theorem bind_result_eq_error_iff {e : Failure} : ((a >>= f) w).result = .error e ↔
    (a w).result = .error e ∨
      ∃ x, (a w).result = .ok x ∧ (f x (w.withFiles (a w).files)).result = .error e := by
  cases first : (a w).result with
  | error e' =>
    rw [bind_apply_error first]
    simp
  | ok x =>
    rw [bind_apply_ok first]
    simp

/-- Behind a step that left the files alone the next one is taken in the same world, and
its events come behind. -/
theorem bind_undisturbed {x : α} {events : List Event}
    (h : a w = ⟨.ok x, w.view.files, events⟩) :
    (a >>= f) w = { f x w with events := events ++ (f x w).events } := by
  rw [bind_apply_ok (x := x) (by rw [h]), h]
  rfl

/-- Where nothing more is done behind a step there are no further events. -/
theorem bind_return {x : α} {y : β} {files : FileTree} {events : List Event}
    (h : a w = ⟨.ok x, files, events⟩) (next : f x = pure y) :
    (a >>= f) w = ⟨.ok y, files, events⟩ := by
  rw [bind_apply_ok (congrArg Outcome.result h), next, h]
  show (⟨_, _, events ++ []⟩ : Outcome _) = _
  rw [List.append_nil]
  rfl

/-- What is made of the result of a step, if it has one, adds no event. -/
theorem bind_pure_run {g : α → β} {result : Except Failure α} {files : FileTree}
    {events : List Event} (h : a w = ⟨result, files, events⟩) :
    (a >>= fun x => pure (g x)) w = ⟨result.map g, files, events⟩ := by
  cases result with
  | error e =>
    rw [bind_apply_error (e := e) (by rw [h]), h]
    rfl
  | ok x => exact bind_return h rfl

/-- Behind a step that failed nothing happens. -/
theorem bind_failed {e : Failure} {files : FileTree} {events : List Event}
    (h : a w = ⟨.error e, files, events⟩) : (a >>= f) w = ⟨.error e, files, events⟩ := by
  rw [bind_apply_error (e := e) (by rw [h]), h]

/-! ## Single steps -/

theorem note_run (n : Log.Note) : note n w = ⟨.ok (), w.view.files, [.noted n]⟩ := rfl

theorem print_run (i : Console.Item) : print i w = ⟨.ok (), w.view.files, [.printed i]⟩ := rfl

/-- Letting an event happen for each item of a list leaves one event for each of them. -/
theorem forEach_emit_run {ι : Type} (e : ι → Event) (items : List ι) :
    forEach (fun item => emit (e item)) items w = ⟨.ok (), w.view.files, items.map e⟩ := by
  induction items with
  | nil => rfl
  | cons item rest ih =>
    have first : emit (e item) w = ⟨.ok (), w.view.files, [e item]⟩ := rfl
    show (emit (e item) >>= fun _ => forEach (fun item => emit (e item)) rest) w = _
    rw [bind_undisturbed first, ih]
    rfl

theorem forEach_note_run {ι : Type} (n : ι → Log.Note) (items : List ι) :
    forEach (fun item => note (n item)) items w =
      ⟨.ok (), w.view.files, items.map fun item => .noted (n item)⟩ :=
  forEach_emit_run _ items

theorem forEach_print_run {ι : Type} (i : ι → Console.Item) (items : List ι) :
    forEach (fun item => print (i item)) items w =
      ⟨.ok (), w.view.files, items.map fun item => .printed (i item)⟩ :=
  forEach_emit_run _ items

theorem printAll_run (items : List Console.Item) :
    forEach print items w = ⟨.ok (), w.view.files, items.map .printed⟩ :=
  forEach_emit_run _ items

/-- Doing something for each item of a list ends at the first item for which it fails, if it
leaves the files alone and does nothing else where it fails. -/
theorem forEach_run {ι : Type} (f : ι → Action Unit) (fine : ι → Bool) (items : List ι)
    (goes : ∀ item, fine item = true → f item w = ⟨.ok (), w.view.files, (f item w).events⟩)
    (fails : ∀ item, fine item = false → ∃ e, f item w = ⟨.error e, w.view.files, []⟩) :
    forEach f items w = ⟨(items.find? (!fine ·)).elim (.ok ()) fun item => (f item w).result,
      w.view.files, (items.takeWhile fine).flatMap fun item => (f item w).events⟩ := by
  induction items with
  | nil => rfl
  | cons item rest ih =>
    show (f item >>= fun _ => forEach f rest) w = _
    cases isFine : fine item with
    | true =>
      rw [bind_undisturbed (goes item isFine), ih, List.takeWhile_cons_of_pos isFine,
        List.find?_cons_of_neg (by simp [isFine])]
      rfl
    | false =>
      obtain ⟨e, failed⟩ := fails item isFine
      rw [bind_failed failed, List.takeWhile_cons_of_neg (by simp [isFine]),
        List.find?_cons_of_pos (by simp [isFine]), Option.elim_some, failed]
      rfl

/-! ## Attempts -/

section Attempts

variable {files : FileTree} {events : List Event}

/-- A result is passed on. -/
theorem orLaunchFailure_ok {x : α} (h : a w = ⟨.ok x, files, events⟩) :
    a.orLaunchFailure w = ⟨.ok (.ok x), files, events⟩ := by
  have tried : a.attempt w = ⟨.ok (.ok x), files, events⟩ := by rw [attempt, h]
  exact bind_return tried rfl

/-- That a program could not be run is passed on as a value. -/
theorem orLaunchFailure_launch {executable reason : String}
    (h : a w = ⟨.error (.launch executable reason), files, events⟩) :
    a.orLaunchFailure w = ⟨.ok (.error (.launch executable reason)), files, events⟩ := by
  have tried : a.attempt w = ⟨.ok (.error (.launch executable reason)), files, events⟩ := by
    rw [attempt, h]
  exact bind_return tried rfl

end Attempts

/-! ## Starts -/

/-- A start has a result exactly if it was answered, and the result is the answer. -/
theorem start_result_eq_ok_iff {s : Start} {answer : Answer} :
    (start s w).result = .ok answer ↔ ∃ files, w.launcher w.view s = some (answer, files) := by
  unfold start
  cases answered : w.launcher w.view s with
  | none => simp
  | some reply => cases reply; simp

/-- A start fails exactly if it has no answer. -/
theorem start_result_eq_error_iff {s : Start} {e : Failure} :
    (start s w).result = .error e ↔ w.launcher w.view s = none ∧ e = .nulInCommand := by
  unfold start
  cases answered : w.launcher w.view s with
  | none => simp [eq_comm]
  | some reply => cases reply; simp

end OwnerBuild.Action
