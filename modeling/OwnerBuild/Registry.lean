/-
# OwnerBuild.Registry -- the checkers that are in use

A registry holds checkers in the order of their registration. Their names differ:
that is part of the type, and a checker whose name is taken is refused. A checker
applies to a path if its format is for the suffix of the path, in small letters,
and a workspace encloses the path.
-/

import OwnerBuild.Checker
import OwnerBuild.Text.LowerCase

namespace OwnerBuild

/-- Strings in ascending order, each of them once. -/
def sortedStrings (ss : List String) : List String :=
  ss.eraseDups.mergeSort fun a b => decide (a ≤ b)

/-- Checkers of different names, in the order of their registration. -/
structure Registry where
  checkers : List Checker
  distinct : (checkers.map (·.name)).Nodup

namespace Registry

/-- A registry without checkers. -/
def empty : Registry := ⟨[], List.nodup_nil⟩

instance : Inhabited Registry := ⟨empty⟩

/-- The names of the checkers. -/
def names (r : Registry) : List String := r.checkers.map (·.name)

/-- Adds a checker behind the others, unless its name is taken. -/
def register (r : Registry) (c : Checker) : Except Failure Registry :=
  if h : c.name ∈ r.names then .error (.alreadyRegistered c.name)
  else .ok ⟨r.checkers ++ [c], by
    have := r.distinct
    simp only [names] at h
    simp only [List.map_append, List.map_cons, List.map_nil]
    exact List.nodup_append.mpr ⟨this, by simp, fun a ha b hb => by
      simp only [List.mem_singleton] at hb
      rintro rfl
      exact h (hb ▸ ha)⟩⟩

/-- Registering fails exactly when the name is taken, and says so. -/
theorem register_eq_error_iff {r : Registry} {c : Checker} {e : Failure} :
    r.register c = .error e ↔ c.name ∈ r.names ∧ e = .alreadyRegistered c.name := by
  unfold register
  split
  · next h => simp [h, eq_comm]
  · next h => simp [h]

/-- A checker that is registered comes last. -/
theorem checkers_of_register {r r' : Registry} {c : Checker} (h : r.register c = .ok r') :
    r'.checkers = r.checkers ++ [c] := by
  unfold register at h
  split at h
  · simp at h
  · simp only [Except.ok.injEq] at h
    rw [← h]

/-- The checker of a name. -/
def get? (r : Registry) (name : String) : Option Checker := r.checkers.find? (·.name = name)

/-- The checker of a name, or a failure. -/
def get (r : Registry) (name : String) : Except Failure Checker :=
  match r.get? name with
  | some c => .ok c
  | none => .error (.unknownChecker name)

/-- The suffixes that some format is for, in ascending order. -/
def extensions (r : Registry) : List String :=
  sortedStrings (r.checkers.flatMap (·.format.extensions))

/-- Whether a checker's format is for the suffix of a path. -/
def covers (c : Checker) (path : Path) : Bool :=
  c.format.extensions.contains (Text.lowerString path.suffix)

/-- The checkers that apply to a path. The workspace is only looked for if some
format is for the path. -/
def applicable (r : Registry) (v : View) (path : Path) : Except LookupError (List Checker) :=
  match r.checkers.filter (covers · path) with
  | [] => .ok []
  | covering => (Checker.enabled v path).map fun enabled => if enabled then covering else []

/-- The checkers that apply to a path, as an action. -/
def applicableTo (r : Registry) (path : Path) : Action (List Checker) :=
  Action.look (r.applicable · path)

end Registry

end OwnerBuild
