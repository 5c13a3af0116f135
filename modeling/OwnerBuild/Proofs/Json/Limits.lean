/-
# OwnerBuild.Proofs.Json.Limits -- the limits that read values keep to

The reader has two limits: how many arrays and objects a value may lie within, and how
many digits the integer part of a number may have. `Value.Fits` states both of a value,
with the property of its numbers left open; `fits_of_read?` shows that every value that
is read fits. The proof is an invariant of the machine: the frames on its stack hold
values that fit where they stand, and the stack is at most one frame higher than the
depth at which a value may begin, that last frame having to stay empty.

Only integers are bounded in their digits here. A decimal may have a fraction and an
exponent of any length, so nothing is said of its mantissa.
-/

import OwnerBuild.Proofs.Text.Digits

namespace OwnerBuild.Json

open Text (digitsValue decimalDigits signed)

/-! ## Values within limits -/

mutual
/-- Whether every value in a value, itself lying within `outer` arrays and objects, lies
within as many as a value may, and every number in it has a property. -/
def Value.Fits (P : Number → Prop) (outer : Nat) : Value → Prop
  | .null => outer ≤ deepest
  | .bool _ => outer ≤ deepest
  | .number n => outer ≤ deepest ∧ P n
  | .string _ => outer ≤ deepest
  | .array items => outer ≤ deepest ∧ itemsFit P (outer + 1) items
  | .object members => outer ≤ deepest ∧ membersFit P (outer + 1) members

/-- Whether the items of an array fit. -/
def itemsFit (P : Number → Prop) (outer : Nat) : List Value → Prop
  | [] => True
  | v :: rest => v.Fits P outer ∧ itemsFit P outer rest

/-- Whether the members of an object fit. -/
def membersFit (P : Number → Prop) (outer : Nat) : List (String × Value) → Prop
  | [] => True
  | (_, v) :: rest => v.Fits P outer ∧ membersFit P outer rest
end

/-- An integer with no more digits than can be read, whatever its sign; other numbers are
not bounded. -/
def Number.IsShort : Number → Prop
  | .integer n => (decimalDigits n.natAbs).length ≤ longestInteger
  | .decimal .. => True
  | .unbounded => True

variable {P : Number → Prop} {outer : Nat}

theorem itemsFit_iff {items : List Value} : itemsFit P outer items ↔ ∀ v ∈ items, v.Fits P outer := by
  induction items with
  | nil => simp [itemsFit]
  | cons v rest ih => simp [itemsFit, ih]

theorem membersFit_iff {members : List (String × Value)} :
    membersFit P outer members ↔ ∀ m ∈ members, m.2.Fits P outer := by
  induction members with
  | nil => simp [membersFit]
  | cons m rest ih =>
    obtain ⟨key, v⟩ := m
    simp [membersFit, ih]

@[simp] theorem fits_null : Value.null.Fits P outer ↔ outer ≤ deepest := by
  rw [Value.Fits]

@[simp] theorem fits_bool {b : Bool} : (Value.bool b).Fits P outer ↔ outer ≤ deepest := by
  rw [Value.Fits]

@[simp] theorem fits_number {n : Number} :
    (Value.number n).Fits P outer ↔ outer ≤ deepest ∧ P n := by
  rw [Value.Fits]

@[simp] theorem fits_string {s : String} :
    (Value.string s).Fits P outer ↔ outer ≤ deepest := by
  rw [Value.Fits]

@[simp] theorem fits_array {items : List Value} : (Value.array items).Fits P outer ↔
    outer ≤ deepest ∧ ∀ v ∈ items, v.Fits P (outer + 1) := by
  rw [Value.Fits, itemsFit_iff]

@[simp] theorem fits_object {members : List (String × Value)} :
    (Value.object members).Fits P outer ↔
      outer ≤ deepest ∧ ∀ m ∈ members, m.2.Fits P (outer + 1) := by
  rw [Value.Fits, membersFit_iff]

/-- What fits lies within as many arrays and objects as a value may. -/
theorem Value.Fits.outer_le {v : Value} (h : v.Fits P outer) : outer ≤ deepest := by
  cases v with
  | null => exact fits_null.mp h
  | bool b => exact fits_bool.mp h
  | number n => exact (fits_number.mp h).1
  | string s => exact fits_string.mp h
  | array items => exact (fits_array.mp h).1
  | object members => exact (fits_object.mp h).1

/-- The member of a key fits where the members do. -/
theorem fits_of_member? {members : List (String × Value)} {key : String} {v : Value}
    (fit : ∀ m ∈ members, m.2.Fits P outer) (h : member? key members = some v) :
    v.Fits P outer := by
  induction members with
  | nil => cases h
  | cons m rest ih =>
    obtain ⟨k, w⟩ := m
    have later := ih fun m hm => fit m (List.mem_cons_of_mem _ hm)
    rw [member?] at h
    split at h
    · next found => exact later (found.trans h)
    · split at h
      · exact Option.some.inj h ▸ fit (k, w) List.mem_cons_self
      · cases h

/-! ## Numbers that are read -/

/-- A sign changes nothing about the size of a number. -/
theorem natAbs_signed (negative : Bool) (n : Nat) : (signed negative n).natAbs = n := by
  cases negative
  · exact Int.natAbs_natCast n
  · exact (Int.natAbs_neg n).trans (Int.natAbs_natCast n)

/-- An integer part that is accepted writes an integer that is short. -/
theorem isShort_of_isIntegerPart {digits : List Char}
    (allDigits : ∀ c ∈ digits, c.isDigit = true) (h : isIntegerPart digits = true) :
    (decimalDigits (digitsValue digits)).length ≤ longestInteger := by
  unfold isIntegerPart at h
  -- no digits, a single zero, or digits that begin with another one
  split at h
  · cases h
  · have zero : (decimalDigits 0).length = 1 := by
      rw [Text.decimalDigits_of_lt (by decide), List.length_singleton]
    have limit : 1 ≤ longestInteger := by decide
    exact Nat.le_trans (Nat.le_of_eq zero) limit
  · next d rest _ =>
    simp only [Bool.and_eq_true, decide_eq_true_eq] at h
    have value := Text.digitsValue_lt allDigits
    exact Nat.le_trans ((Text.length_decimalDigits_le_iff (by simp)).mpr value) h.2

/-- **A numeral that is read as an integer is short.** -/
theorem isShort_of_readNumber? {s : List Char} {n : Number} (h : readNumber? s = some n) :
    n.IsShort := by
  have scaled {negative : Bool} {whole fraction rest : List Char} {n : Number}
      (h : readScale? negative whole fraction rest = some n) : n.IsShort := by
    unfold readScale? at h
    dsimp only at h
    split at h
    · cases h
      trivial
    · split at h
      · obtain ⟨e, -, rfl⟩ := Option.map_eq_some_iff.mp h
        trivial
      · cases h
  have unsigned {negative : Bool} {s : List Char} (h : readUnsigned? negative s = some n) :
      n.IsShort := by
    have digits : ∀ c ∈ s.takeWhile Char.isDigit, c.isDigit = true := by
      intro c hc
      exact List.all_eq_true.mp List.all_takeWhile c hc
    unfold readUnsigned? at h
    dsimp only at h
    split at h
    · next integerPart =>
      split at h
      · obtain rfl := Option.some.inj h
        rw [Number.IsShort, natAbs_signed]
        exact isShort_of_isIntegerPart digits integerPart
      · split at h
        · cases h
        · exact scaled h
      · exact scaled h
    · cases h
  unfold readNumber? at h
  split at h
  · exact unsigned h
  · exact unsigned h

/-- What a literal says fits wherever a value may stand. -/
theorem fits_of_readLiteral? {s : List Char} {v : Value} (h : readLiteral? s = some v)
    (depth : outer ≤ deepest) : v.Fits Number.IsShort outer := by
  unfold readLiteral? at h
  split at h
  · next word =>
    obtain rfl := Option.some.inj h
    have words : ∀ w ∈ literalWords, w.2.Fits Number.IsShort outer := by
      simp [literalWords, depth, Number.IsShort]
    exact words _ (List.lookup_eq_some_iff.mp word |> fun ⟨before, after, split, _⟩ =>
      split ▸ List.mem_append_right _ List.mem_cons_self)
  · obtain ⟨n, read, rfl⟩ := Option.map_eq_some_iff.mp h
    exact fits_number.mpr ⟨depth, isShort_of_readNumber? read⟩

/-! ## The machine within the limits -/

/-- Whether the values that an unfinished array or object holds fit within `depth`. -/
def Frame.Fits (depth : Nat) : Frame → Prop
  | .array items => ∀ v ∈ items, v.Fits Number.IsShort depth
  | .object members _ => ∀ m ∈ members, m.2.Fits Number.IsShort depth

/-- Whether the frames of a stack hold what fits where they stand. -/
def framesFit : List Frame → Prop
  | [] => True
  | f :: rest => f.Fits (rest.length + 1) ∧ framesFit rest

/-- Whether a phase is within the limits at a height of the stack: a value that has begun
may stand there, and the one that is all has ended outside of all others and fits. -/
def Phase.Fits (height : Nat) : Phase → Prop
  | .string isKey _ _ => isKey = false → height ≤ deepest
  | .literal _ => height ≤ deepest
  | .finished v => height = 0 ∧ v.Fits Number.IsShort 0
  | _ => True

namespace State

/-- **The limits as an invariant of the machine.** -/
structure Fits (q : State) : Prop where
  frames : framesFit q.stack
  height : q.stack.length ≤ deepest + 1
  phase : q.phase.Fits q.stack.length

theorem fits_start : start.Fits := ⟨trivial, Nat.zero_le _, trivial⟩

theorem fits_failure : failure.Fits := ⟨trivial, Nat.zero_le _, trivial⟩

variable {stack : List Frame} {c : Char}

theorem fits_deliver {v : Value} (frames : framesFit stack) (height : stack.length ≤ deepest + 1)
    (fit : v.Fits Number.IsShort stack.length) : (deliver stack v).Fits := by
  match stack with
  | [] => exact ⟨trivial, Nat.zero_le _, rfl, fit⟩
  | .array items :: rest =>
    refine ⟨⟨?_, frames.2⟩, height, trivial⟩
    intro w hw
    rcases List.mem_cons.mp hw with rfl | hw
    · exact fit
    · exact frames.1 w hw
  | .object members key :: rest =>
    refine ⟨⟨?_, frames.2⟩, height, trivial⟩
    intro m hm
    rcases List.mem_cons.mp hm with rfl | hm
    · exact fit
    · exact frames.1 m hm

/-- A closed array or object stands one frame lower than what it holds. -/
theorem fits_close (frames : framesFit stack) (height : stack.length ≤ deepest + 1) :
    (close stack c).Fits := by
  -- the frame that ends is gone, so what it held is within the limit without the one
  match stack with
  | [] => exact fits_failure
  | .array items :: rest =>
    rw [List.length_cons] at height
    rw [close]
    split
    · refine fits_deliver frames.2 (by omega) (fits_array.mpr ⟨by omega, ?_⟩)
      intro v hv
      exact frames.1 v (List.mem_reverse.mp hv)
    · exact fits_failure
  | .object members key :: rest =>
    rw [List.length_cons] at height
    rw [close]
    split
    · refine fits_deliver frames.2 (by omega) (fits_object.mpr ⟨by omega, ?_⟩)
      intro m hm
      exact frames.1 m (List.mem_reverse.mp hm)
    · exact fits_failure

theorem fits_openValue (frames : framesFit stack) : (openValue stack c).Fits := by
  unfold openValue
  split
  · exact fits_failure
  next depth =>
    -- a frame may be put on the highest stack that a value may begin at, so the height
    -- can pass the limit by one
    have height : stack.length ≤ deepest := by omega
    split
    · exact ⟨⟨by simp [Frame.Fits], frames⟩, by simpa using height, trivial⟩
    split
    · exact ⟨⟨by simp [Frame.Fits], frames⟩, by simpa using height, trivial⟩
    split
    · exact ⟨frames, Nat.le_succ_of_le height, fun _ => height⟩
    split
    · exact ⟨frames, Nat.le_succ_of_le height, height⟩
    · exact fits_failure

theorem fits_afterValue (frames : framesFit stack) (height : stack.length ≤ deepest + 1) :
    (afterValue stack c).Fits := by
  unfold afterValue
  split
  · exact ⟨frames, height, trivial⟩
  split
  · match stack with
    | [] => exact fits_failure
    | .array items :: rest => exact ⟨frames, height, trivial⟩
    | .object members key :: rest => exact ⟨frames, height, trivial⟩
  · exact fits_close frames height

theorem fits_afterAll {v : Value} (fit : v.Fits Number.IsShort 0) : (afterAll v c).Fits := by
  unfold afterAll
  split
  · exact ⟨trivial, Nat.zero_le _, rfl, fit⟩
  · exact fits_failure

theorem fits_endString {isKey : Bool} {read : List Char} (frames : framesFit stack)
    (height : stack.length ≤ deepest + 1) (depth : isKey = false → stack.length ≤ deepest) :
    (endString stack isKey read).Fits := by
  cases isKey with
  | false =>
    exact fits_deliver frames height (fits_string.mpr (depth rfl))
  | true =>
    match stack with
    | [] => exact fits_failure
    | .array items :: rest => exact fits_failure
    | .object members key :: rest => exact ⟨⟨frames.1, frames.2⟩, height, trivial⟩

/-- A character behind a delivered value keeps within the limits. -/
theorem fits_stepDelivered {q : State} (h : q.Fits) : (stepDelivered q c).Fits := by
  unfold stepDelivered
  split
  · next v phase =>
    have finished := h.phase
    rw [phase] at finished
    exact fits_afterAll finished.2
  · exact fits_afterValue h.frames h.height
  · exact fits_failure

/-- **One character keeps the machine within the limits.** -/
theorem fits_step {q : State} (h : q.Fits) (c : Char) : (q.step c).Fits := by
  obtain ⟨stack, phase⟩ := q
  obtain ⟨frames, height, atPhase⟩ := h
  cases phase with
  | value mayClose =>
    simp only [step]
    split
    · exact ⟨frames, height, atPhase⟩
    split
    · exact fits_close frames height
    · exact fits_openValue frames
  | key mayClose =>
    simp only [step]
    split
    · exact ⟨frames, height, atPhase⟩
    split
    · exact fits_close frames height
    split
    · exact ⟨frames, height, by simp [Phase.Fits]⟩
    · exact fits_failure
  | colon =>
    simp only [step]
    split
    · exact ⟨frames, height, atPhase⟩
    split
    · exact ⟨frames, height, trivial⟩
    · exact fits_failure
  | between => exact fits_afterValue frames height
  | string isKey read phase =>
    simp only [step]
    split
    · exact fits_endString frames height atPhase
    split
    · exact ⟨frames, height, atPhase⟩
    · exact fits_failure
  | literal read =>
    simp only [step]
    split
    · exact ⟨frames, height, atPhase⟩
    split
    · next v said =>
      exact fits_stepDelivered (fits_deliver frames height (fits_of_readLiteral? said atPhase))
    · exact fits_failure
  | finished v => exact fits_afterAll atPhase.2
  | failed => exact fits_failure

/-- A text keeps the machine within the limits. -/
theorem fits_run {q : State} (h : q.Fits) (s : List Char) : (q.run s).Fits := by
  induction s generalizing q with
  | nil => exact h
  | cons c s ih => exact ih (fits_step h c)

end State

/-- **Every value that is read fits**: it lies within the depth of the reader everywhere,
and its integers are short. -/
theorem fits_of_read? {s : List Char} {v : Value} (h : read? s = some v) :
    v.Fits Number.IsShort 0 := by
  unfold read? at h
  have fit := State.fits_run State.fits_start s
  unfold State.result? at h
  split at h
  · next stackNil phaseFinished =>
    obtain rfl := Option.some.inj h
    have finished := fit.phase
    rw [phaseFinished] at finished
    exact finished.2
  · next read stackNil phaseLiteral =>
    exact fits_of_readLiteral? h (Nat.zero_le _)
  · cases h

end OwnerBuild.Json
