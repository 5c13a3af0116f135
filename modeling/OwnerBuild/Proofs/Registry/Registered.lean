/-
# OwnerBuild.Proofs.Registry.Registered -- a registry after any series of registrations

A registration either puts a checker behind the others or is refused and changes nothing, so a
series of them can be carried through whether or not some are refused (`afterCalls`). What one
call does to the checkers (`checkers_afterCall`) settles what it does to each view of them: to
the names in order, and to the checker of a name. By induction over the calls, the last one at
the end, the names are those of the calls without repetitions (`names_afterCalls`), and a name
has the checker of the first call with it (`get?_afterCalls`).

`OverCalls` puts the views together: who is refused, the order, the checker of each name, how many
there are, the suffixes, and which checkers apply to a path.
-/

import Mathlib.Data.Finset.Card
import OwnerBuild.Proofs.Path.Order
import OwnerBuild.Registry

namespace OwnerBuild.Registry

variable {r r' : Registry} {c : Checker} {v : View} {path : Path} {found : Option Workspace}

/-! ## What a registry says -/

theorem mem_extensions {e : String} :
    e ∈ r.extensions ↔ ∃ c ∈ r.checkers, e ∈ c.format.extensions := by
  rw [extensions, sortedStrings, mem_sorted, List.mem_flatMap]

/-- Which checkers apply is known as soon as the workspace is: in one, those that are for the
suffix, and outside none. -/
theorem applicable_of_located (located : v.workspace? path = .ok found) :
    r.applicable v path = .ok (if found.isSome then r.checkers.filter (covers · path) else []) := by
  have enabled : Checker.enabled v path = .ok found.isSome := by
    rw [Checker.enabled, located]
    rfl
  unfold applicable
  split
  · next none => rw [none, ite_self]
  · rw [enabled]
    rfl

/-- If no format is for the suffix, the workspace is not even looked for. -/
theorem applicable_of_uncovered (uncovered : ∀ c ∈ r.checkers, covers c path = false) :
    r.applicable v path = .ok [] := by
  have none : r.checkers.filter (covers · path) = [] := by
    rw [List.filter_eq_nil_iff]
    intro c registered
    rw [uncovered c registered]
    exact Bool.false_ne_true
  rw [applicable, none]

/-! ## One call -/

/-- A registry after a call to register a checker: a call that is refused leaves it as it is. -/
def afterCall (r : Registry) (c : Checker) : Registry :=
  match r.register c with
  | .ok r' => r'
  | .error _ => r

/-- **A call puts the checker behind the others, or changes nothing.** -/
theorem checkers_afterCall (r : Registry) (c : Checker) :
    (r.afterCall c).checkers = if c.name ∈ r.names then r.checkers else r.checkers ++ [c] := by
  unfold afterCall
  cases called : r.register c with
  | error e =>
    have taken := (register_eq_error_iff.mp called).1
    rw [if_pos taken]
  | ok r' =>
    have free : c.name ∉ r.names := by
      intro taken
      have refused := register_eq_error_iff.mpr ⟨taken, rfl⟩
      rw [called] at refused
      cases refused
    rw [if_neg free]
    exact checkers_of_register called

theorem names_afterCall (r : Registry) (c : Checker) :
    (r.afterCall c).names = if c.name ∈ r.names then r.names else r.names ++ [c.name] := by
  rw [names, checkers_afterCall]
  split
  · rfl
  · rw [List.map_append]
    rfl

theorem get?_eq_none_iff {name : String} : r.get? name = none ↔ name ∉ r.names := by
  simp [get?, names]

/-- A call gives a name its checker if the name has none. -/
theorem get?_afterCall (r : Registry) (c : Checker) (name : String) :
    (r.afterCall c).get? name = (r.get? name).or (if c.name = name then some c else none) := by
  rw [get?, checkers_afterCall]
  split
  · next taken =>
    show r.get? name = _
    cases held : r.get? name with
    | some other => rfl
    | none =>
      have other : c.name ≠ name := by
        rintro rfl
        exact get?_eq_none_iff.mp held taken
      rw [if_neg other]
      rfl
  · rw [List.find?_append]
    by_cases same : c.name = name <;> simp [get?, same]

/-! ## Series of calls -/

/-- A registry after some calls, one after the other, of which some may be refused. -/
def afterCalls (r : Registry) (calls : List Checker) : Registry := calls.foldl afterCall r

theorem afterCalls_append_singleton (r : Registry) (calls : List Checker) (c : Checker) :
    r.afterCalls (calls ++ [c]) = (r.afterCalls calls).afterCall c := by
  rw [afterCalls, List.foldl_append]
  rfl

/-- **The names are those of the calls**, in the order of their first calls. -/
theorem names_afterCalls (calls : List Checker) :
    (empty.afterCalls calls).names = (calls.map (·.name)).eraseDups := by
  induction calls using List.reverseRecOn with
  | nil => rfl
  | append_singleton calls c ih =>
    rw [afterCalls_append_singleton, names_afterCall, ih, List.map_append, List.eraseDups_append]
    by_cases taken : c.name ∈ calls.map (·.name)
    · rw [if_pos (List.mem_eraseDups.mpr taken)]
      simp [List.removeAll, List.mem_map.mp taken]
    · rw [if_neg (mt List.mem_eraseDups.mp taken)]
      have remains : [c.name].removeAll (calls.map (·.name)) = [c.name] := by
        simpa [List.removeAll] using taken
      rw [List.map_singleton, remains]
      rfl

theorem mem_names_afterCalls {calls : List Checker} {name : String} :
    name ∈ (empty.afterCalls calls).names ↔ name ∈ calls.map (·.name) := by
  rw [names_afterCalls, List.mem_eraseDups]

/-- **A name has the checker of the first call with it.** -/
theorem get?_afterCalls (calls : List Checker) (name : String) :
    (empty.afterCalls calls).get? name = calls.find? (·.name = name) := by
  induction calls using List.reverseRecOn with
  | nil => rfl
  | append_singleton calls c ih =>
    rw [afterCalls_append_singleton, get?_afterCall, ih, List.find?_append]
    by_cases same : c.name = name <;> simp [same]

/-- The checkers are calls, in the order of the calls. -/
theorem checkers_afterCalls_sublist (calls : List Checker) :
    (empty.afterCalls calls).checkers.Sublist calls := by
  induction calls using List.reverseRecOn with
  | nil => exact List.Sublist.refl []
  | append_singleton calls c ih =>
    rw [afterCalls_append_singleton, checkers_afterCall]
    split
    · exact ih.trans (List.sublist_append_left calls [c])
    · exact ih.append (List.Sublist.refl [c])

/-- A checker that is registered is the one of its name. -/
theorem get?_of_mem (registered : c ∈ r.checkers) : r.get? c.name = some c := by
  cases found : r.get? c.name with
  | none =>
    have absent := get?_eq_none_iff.mp found
    exact absurd (List.mem_map_of_mem registered) absent
  | some other =>
    have same : other.name = c.name := by simpa using List.find?_some found
    have member : other ∈ r.checkers := List.mem_of_find?_eq_some found
    exact congrArg some (List.inj_on_of_nodup_map r.distinct member registered same)

theorem get_eq_ok_iff {name : String} : r.get name = .ok c ↔ r.get? name = some c := by
  rw [get]
  cases r.get? name <;> simp

theorem get_eq_error_iff {name : String} {e : Failure} :
    r.get name = .error e ↔ name ∉ r.names ∧ e = .unknownChecker name := by
  rw [get, ← get?_eq_none_iff]
  cases r.get? name <;> simp [eq_comm]

/-! ## All of it -/

/-- What a registry holds after some calls, of which some may be refused. -/
structure OverCalls (calls : List Checker) (r : Registry) : Prop where
  /-- A call is refused exactly if a checker of its name is registered, which is so exactly if an
  earlier call had the name. -/
  refused_iff : ∀ before c after e, calls = before ++ c :: after →
    ((empty.afterCalls before).register c = .error e ↔
      c.name ∈ (empty.afterCalls before).names ∧ e = .alreadyRegistered c.name) ∧
    (c.name ∈ (empty.afterCalls before).names ↔ c.name ∈ before.map (·.name))
  /-- It then leaves the registry as it was, and otherwise the checker comes last. -/
  unchanged : ∀ before c after e, calls = before ++ c :: after →
    (empty.afterCalls before).register c = .error e →
      empty.afterCalls (before ++ [c]) = empty.afterCalls before
  accepted : ∀ before c after r', calls = before ++ c :: after →
    (empty.afterCalls before).register c = .ok r' → empty.afterCalls (before ++ [c]) = r' ∧
      r'.checkers = (empty.afterCalls before).checkers ++ [c]
  /-- The names are in the order of the first call with each, and each of them is there once. -/
  order : r.names = (calls.map (·.name)).eraseDups ∧ r.names.Nodup
  /-- The checkers are calls in the order of the calls, each of them the first with its name. -/
  first : r.checkers.Sublist calls ∧
    ∀ c, c ∈ r.checkers ↔ calls.find? (·.name = c.name) = some c
  /-- The checker of a name is that of the first call with it; other names have none. -/
  get_eq_ok_iff : ∀ name c, r.get name = .ok c ↔ calls.find? (·.name = name) = some c
  get_eq_error_iff : ∀ name e, r.get name = .error e ↔
    name ∉ calls.map (·.name) ∧ e = .unknownChecker name
  /-- There are as many checkers as there are different names. -/
  size : r.checkers.length = (calls.map (·.name)).toFinset.card
  /-- The suffixes are those that some format is for, each of them once. -/
  extensions : r.extensions.Nodup ∧
    ∀ e, e ∈ r.extensions ↔ ∃ c ∈ r.checkers, e ∈ c.format.extensions
  /-- In a workspace the checkers that apply are those that are for the suffix of the path in
  small letters, in their order; outside there are none. -/
  applicable : ∀ v path found, v.workspace? path = .ok found → r.applicable v path =
    .ok (if found.isSome then
      r.checkers.filter fun c => c.format.extensions.contains (Text.lowerString path.suffix)
    else [])
  /-- If no format is for the suffix there are none, and nothing is looked up. -/
  unasked : ∀ v path, (∀ c ∈ r.checkers, Text.lowerString path.suffix ∉ c.format.extensions) →
    r.applicable v path = .ok []

/-- **What a registry holds is settled by the first call with each name.** -/
theorem overCalls (calls : List Checker) : OverCalls calls (empty.afterCalls calls) where
  refused_iff := by
    intro before c after e _
    exact ⟨register_eq_error_iff, mem_names_afterCalls⟩
  unchanged := by
    intro before c after e _ refused
    rw [afterCalls_append_singleton, afterCall, refused]
  accepted := by
    intro before c after r' _ called
    rw [afterCalls_append_singleton, afterCall, called]
    exact ⟨rfl, checkers_of_register called⟩
  order := ⟨names_afterCalls calls, (empty.afterCalls calls).distinct⟩
  first := by
    refine ⟨checkers_afterCalls_sublist calls, ?_⟩
    intro c
    rw [← get?_afterCalls]
    exact ⟨get?_of_mem, List.mem_of_find?_eq_some⟩
  get_eq_ok_iff := by
    intro name c
    rw [Registry.get_eq_ok_iff, get?_afterCalls]
  get_eq_error_iff := by
    intro name e
    rw [Registry.get_eq_error_iff, mem_names_afterCalls]
  size := by
    have distinct : (empty.afterCalls calls).names.Nodup := (empty.afterCalls calls).distinct
    have same : (calls.map (·.name)).toFinset = (empty.afterCalls calls).names.toFinset := by
      ext name
      rw [List.mem_toFinset, List.mem_toFinset, mem_names_afterCalls]
    rw [same, List.toFinset_card_of_nodup distinct, names, List.length_map]
  extensions := ⟨nodup_sorted _, fun _ => mem_extensions⟩
  applicable := by
    intro v path found located
    exact applicable_of_located located
  unasked := by
    intro v path uncovered
    apply applicable_of_uncovered
    intro c registered
    rw [covers, ← Bool.not_eq_true, List.contains_iff_mem]
    exact uncovered c registered

end OwnerBuild.Registry
