/-
# OwnerBuild.Proofs.Json.Around -- what stands around a value

Outside of a value only the four white-space characters of the grammar may stand, and
they change nothing (`read?_append_space`, `read?_cons_space`). The blanks that trimming
removes are many more characters, but in a text that can be read none of the others
stands at an end: `read?_trim` says that trimming such a text does not change what it
says. Control characters stand nowhere in a text that can be read, not even in its
strings (`isSpace_of_read?`).

Both rest on one fact about the machine: outside of strings a character that has no
meaning there, `isForeign`, is the end of reading in every state (`step_foreign`).
-/

import OwnerBuild.Proofs.Json.Limits
import OwnerBuild.Proofs.Text.Lines

namespace OwnerBuild.Json

open Text (isBlank trim trimStart)

/-- Characters that belong to a class and do not are different. -/
theorem ne_of_class {p : Char → Bool} {c d : Char} (h : p c = true) (hd : p d = false) :
    c ≠ d := by
  rintro rfl
  rw [h] at hd
  cases hd

namespace State

/-! ## White space -/

@[simp] theorem run_nil (q : State) : q.run [] = q := rfl

@[simp] theorem run_cons (q : State) (c : Char) (s : List Char) :
    q.run (c :: s) = (q.step c).run s := rfl

theorem not_isLiteralChar_of_isSpace {c : Char} (h : isSpace c = true) :
    isLiteralChar c = false := by
  simp only [isSpace, Bool.or_eq_true, beq_iff_eq] at h
  rcases h with ((rfl | rfl) | rfl) | rfl <;> decide

theorem isBlank_of_isSpace {c : Char} (h : isSpace c = true) : isBlank c = true := by
  simp only [isSpace, Bool.or_eq_true, beq_iff_eq] at h
  rcases h with ((rfl | rfl) | rfl) | rfl <;> decide

/-- White space before a value is passed over. -/
theorem step_start_space {c : Char} (h : isSpace c = true) : start.step c = start := by
  simp [start, step, h]

/-- Behind a value white space does not change what has been said. -/
theorem result?_step_space {q : State} (fit : q.Fits) {c : Char} (h : isSpace c = true) :
    (q.step c).result? = q.result? := by
  obtain ⟨stack, phase⟩ := q
  have delivered (v : Value) : (stepDelivered (deliver stack v) c).result? =
      if stack = [] then some v else none := by
    match stack with
    | [] => simp [deliver, stepDelivered, afterAll, h, result?]
    | .array items :: rest => simp [deliver, stepDelivered, afterValue, h, result?]
    | .object members key :: rest => simp [deliver, stepDelivered, afterValue, h, result?]
  cases phase with
  | value mayClose => simp [step, h]
  | key mayClose => simp [step, h]
  | colon => simp [step, h]
  | between => simp [step, afterValue, h]
  | string isKey read phase =>
    have open_ : ¬ (phase = .plain ∧ c = '"') := fun both => ne_of_class h (by decide) both.2
    have none (stack : List Frame) (isKey : Bool) (read : List Char) (phase : StringPhase) :
        (⟨stack, .string isKey read phase⟩ : State).result? = none := by
      cases stack <;> rfl
    rw [none, step]
    simp only [if_neg open_]
    split
    · exact none _ _ _ _
    · rfl
  | literal read =>
    -- the literal ends here: what it says is delivered, and the white space is behind that
    simp only [step, not_isLiteralChar_of_isSpace h, Bool.false_eq_true, if_false]
    cases said : readLiteral? read.reverse with
    | none => cases stack <;> simp [result?, failure, said]
    | some v =>
      simp only [delivered]
      cases stack <;> simp [result?, said]
  | finished v =>
    obtain rfl : stack = [] := List.eq_nil_of_length_eq_zero fit.phase.1
    simp [step, afterAll, h, result?]
  | failed => cases stack <;> rfl

/-! ## Characters without a meaning -/

/-- A character that stands nowhere outside of strings: neither white space nor in a
literal, and no mark of the grammar. -/
def isForeign (c : Char) : Bool :=
  !(isSpace c || isLiteralChar c || "[]\x7b\x7d,:\"".toList.contains c)

/-- The characters of literals are printable and no blanks. -/
theorem isLiteralChar_bounds {c : Char} (h : isLiteralChar c = true) :
    0x20 < c.toNat ∧ c.toNat < 0x7f := by
  have alphanum : c.isAlphanum = ((decide (c.val ≥ 'A'.val ∧ c.val ≤ 'Z'.val) ||
      (c.val ≥ 'a'.val && c.val ≤ 'z'.val)) || (c.val ≥ '0'.val && c.val ≤ '9'.val)) := rfl
  simp only [isLiteralChar, alphanum, Bool.or_eq_true, Bool.and_eq_true, decide_eq_true_eq,
    beq_iff_eq, ge_iff_le, UInt32.le_iff_toNat_le] at h
  have toNat (d : Char) : d.val.toNat = d.toNat := rfl
  simp only [toNat, Char.reduceToNat] at h
  rcases h with ((h | rfl) | rfl) | rfl
  · omega
  · decide
  · decide
  · decide

/-- Characters that are not printable are foreign, white space apart. -/
theorem isForeign_of_bounds {c : Char} (h : c.toNat ≤ 0x20 ∨ 0x7f ≤ c.toNat)
    (space : isSpace c = false) : isForeign c = true := by
  have literal : isLiteralChar c = false := by
    cases said : isLiteralChar c with
    | false => rfl
    | true =>
      have := isLiteralChar_bounds said
      omega
  have marks : "[]\x7b\x7d,:\"".toList.all (fun d => 0x20 < d.toNat && d.toNat < 0x7f) = true := by
    decide
  have mark : "[]\x7b\x7d,:\"".toList.contains c = false := by
    refine Bool.eq_false_iff.mpr fun listed => ?_
    have bounds := List.all_eq_true.mp marks c (List.contains_iff_mem.mp listed)
    simp only [Bool.and_eq_true, decide_eq_true_eq] at bounds
    omega
  simp only [isForeign, space, literal, mark, Bool.or_self, Bool.not_false]

theorem isForeign_of_isBlank {c : Char} (blank : isBlank c = true) (space : isSpace c = false) :
    isForeign c = true := by
  refine isForeign_of_bounds ?_ space
  simp only [isBlank, Text.isSpaceProperty, Bool.or_eq_true, Bool.and_eq_true,
    decide_eq_true_eq, beq_iff_eq] at blank
  omega

section Foreign

variable {c : Char} (foreign : isForeign c = true)

include foreign

theorem not_isSpace_of_isForeign : isSpace c = false := by
  simp only [isForeign, Bool.not_eq_true', Bool.or_eq_false_iff] at foreign
  exact foreign.1.1

theorem not_isLiteralChar_of_isForeign : isLiteralChar c = false := by
  simp only [isForeign, Bool.not_eq_true', Bool.or_eq_false_iff] at foreign
  exact foreign.1.2

theorem openValue_foreign (stack : List Frame) : openValue stack c = failure := by
  simp [openValue, not_isLiteralChar_of_isForeign foreign,
    ne_of_class foreign (d := '\x7b') (by decide), ne_of_class foreign (d := '[') (by decide),
    ne_of_class foreign (d := '"') (by decide)]

theorem close_foreign (stack : List Frame) : close stack c = failure := by
  match stack with
  | [] => rfl
  | .array items :: rest => simp [close, ne_of_class foreign (d := ']') (by decide)]
  | .object members key :: rest => simp [close, ne_of_class foreign (d := '\x7d') (by decide)]

theorem afterValue_foreign (stack : List Frame) : afterValue stack c = failure := by
  simp [afterValue, not_isSpace_of_isForeign foreign,
    ne_of_class foreign (d := ',') (by decide), close_foreign foreign]

theorem stepDelivered_foreign (q : State) : stepDelivered q c = failure := by
  unfold stepDelivered
  split
  · simp [afterAll, not_isSpace_of_isForeign foreign]
  · exact afterValue_foreign foreign _
  · rfl

/-- **Outside of strings a foreign character is the end of reading.** -/
theorem step_foreign {q : State} (outside : ∀ isKey read phase, q.phase ≠ .string isKey read phase) :
    q.step c = failure := by
  obtain ⟨stack, phase⟩ := q
  have space := not_isSpace_of_isForeign foreign
  cases phase with
  | value mayClose =>
    simp [step, space, ne_of_class foreign (d := ']') (by decide), openValue_foreign foreign]
  | key mayClose =>
    simp [step, space, ne_of_class foreign (d := '\x7d') (by decide),
      ne_of_class foreign (d := '"') (by decide)]
  | colon => simp [step, space, ne_of_class foreign (d := ':') (by decide)]
  | between => exact afterValue_foreign foreign stack
  | string isKey read phase => exact absurd rfl (outside isKey read phase)
  | literal read =>
    simp only [step, not_isLiteralChar_of_isForeign foreign, Bool.false_eq_true, if_false]
    split
    · exact stepDelivered_foreign foreign _
    · rfl
  | finished v => simp [step, afterAll, space]
  | failed => rfl

/-- **No value ends at a foreign character.** -/
theorem result?_step_foreign (q : State) : (q.step c).result? = none := by
  obtain ⟨stack, phase⟩ := q
  have outside {phase : Phase} (h : ∀ isKey read inner, phase ≠ .string isKey read inner) :
      (step ⟨stack, phase⟩ c).result? = none := by
    rw [step_foreign foreign h]
    rfl
  cases phase with
  | string isKey read phase =>
    have quote : ¬ (phase = .plain ∧ c = '"') :=
      fun both => ne_of_class foreign (by decide) both.2
    -- a string goes on or has failed, but does not end without its quote
    simp only [step, if_neg quote]
    split
    · cases stack <;> rfl
    · rfl
  | _ => exact outside (by simp)

end Foreign

/-- **A control character that is no white space is the end of reading**, in strings as
well. -/
theorem step_control {c : Char} (control : c.toNat < 0x20) (space : isSpace c = false)
    (q : State) : q.step c = failure := by
  obtain ⟨stack, phase⟩ := q
  have foreign := isForeign_of_bounds (.inl (Nat.le_of_lt control)) space
  cases phase with
  | string isKey read phase =>
    have quote : ¬ (phase = .plain ∧ c = '"') :=
      fun both => ne_of_class foreign (by decide) both.2
    have ne {d : Char} (h : 0x20 ≤ d.toNat) : c ≠ d := by
      rintro rfl
      omega
    -- nothing that a string may hold at any of its phases is a control character
    have nothing : stepString read c phase = none := by
      cases phase with
      | plain => simp [stepString, control, ne (d := '\\') (by decide)]
      | escape =>
        simp [stepString, escaped?, ne (d := 'u') (by decide), ne (d := '"') (by decide),
          ne (d := '\\') (by decide), ne (d := '/') (by decide), ne (d := 'b') (by decide),
          ne (d := 'f') (by decide), ne (d := 'n') (by decide), ne (d := 'r') (by decide),
          ne (d := 't') (by decide)]
      | code digits value high =>
        have below {d : Char} (h : 0x20 ≤ d.toNat) : ¬ d ≤ c := by
          have toNat (d : Char) : d.val.toNat = d.toNat := rfl
          rw [Char.le_def, UInt32.le_iff_toNat_le, toNat, toNat]
          omega
        have noDigit : hexValue? c = none := by
          simp [hexValue?, below (d := '0') (by decide), below (d := 'a') (by decide),
            below (d := 'A') (by decide)]
        simp [stepString, noDigit]
      | lowBackslash high => simp [stepString, ne (d := '\\') (by decide)]
      | lowMark high => simp [stepString, ne (d := 'u') (by decide)]
    simp only [step, if_neg quote, nothing]
  | _ => exact step_foreign foreign (by simp)

/-- No value begins with another blank than white space. -/
theorem step_start_blank {c : Char} (blank : isBlank c = true) (space : isSpace c = false) :
    start.step c = failure :=
  step_foreign (isForeign_of_isBlank blank space) (by simp [start])

/-- **A blank that a value ends before is white space.** -/
theorem isSpace_of_result?_step {q : State} {c : Char} {v : Value} (blank : isBlank c = true)
    (h : (q.step c).result? = some v) : isSpace c = true := by
  cases space : isSpace c with
  | true => rfl
  | false =>
    rw [result?_step_foreign (isForeign_of_isBlank blank space)] at h
    cases h

end State

/-! ## Texts -/

/-- White space before a text does not change what it says. -/
theorem read?_cons_space {c : Char} {s : List Char} (h : State.isSpace c = true) :
    read? (c :: s) = read? s := by
  rw [read?, State.run_cons, State.step_start_space h, read?]

/-- White space behind a text does not change what it says. -/
theorem read?_append_space (s space : List Char) (h : ∀ c ∈ space, State.isSpace c = true) :
    read? (s ++ space) = read? s := by
  induction space using List.reverseRecOn with
  | nil => rw [List.append_nil]
  | append_singleton cs c ih =>
    have fit := State.fits_run State.fits_start (s ++ cs)
    have last : State.isSpace c = true := h c (by simp)
    rw [← List.append_assoc, read?, State.run_append, State.run_cons, State.run_nil,
      State.result?_step_space fit last]
    exact ih fun d hd => h d (by simp [hd])

/-- Of a text that can be read, the blanks at the beginning are white space. -/
theorem read?_of_append_blank {before s : List Char} {v : Value}
    (blank : ∀ c ∈ before, isBlank c = true) (h : read? (before ++ s) = some v) :
    (∀ c ∈ before, State.isSpace c = true) ∧ read? s = some v := by
  induction before with
  | nil => exact ⟨by simp, h⟩
  | cons c before ih =>
    cases space : State.isSpace c with
    | true =>
      rw [List.cons_append, read?_cons_space space] at h
      obtain ⟨spaces, read⟩ := ih (fun d hd => blank d (List.mem_cons_of_mem _ hd)) h
      exact ⟨List.forall_mem_cons.mpr ⟨space, spaces⟩, read⟩
    | false =>
      -- no value begins with another blank
      have failed := State.step_start_blank (blank c List.mem_cons_self) space
      rw [List.cons_append, read?, State.run_cons, failed, State.run_failure] at h
      cases h

/-- Of a text that can be read, the blanks at the end are white space. -/
theorem read?_of_blank_append {s after : List Char} {v : Value}
    (blank : ∀ c ∈ after, isBlank c = true) (h : read? (s ++ after) = some v) :
    (∀ c ∈ after, State.isSpace c = true) ∧ read? s = some v := by
  induction after using List.reverseRecOn with
  | nil => exact ⟨by simp, by rwa [List.append_nil] at h⟩
  | append_singleton cs c ih =>
    have last : isBlank c = true := blank c (by simp)
    have stepped : ((State.start.run (s ++ cs)).step c).result? = some v := by
      rw [← List.append_assoc, read?, State.run_append] at h
      exact h
    have space := State.isSpace_of_result?_step last stepped
    rw [State.result?_step_space (State.fits_run State.fits_start _) space] at stepped
    obtain ⟨spaces, read⟩ := ih (fun d hd => blank d (by simp [hd])) stepped
    refine ⟨?_, read⟩
    intro d hd
    rcases List.mem_append.mp hd with hd | hd
    · exact spaces d hd
    · exact List.mem_singleton.mp hd ▸ space

/-- **Trimming a text that can be read does not change what it says**, and takes nothing
but white space from it. -/
theorem read?_trim {s : List Char} {v : Value} (h : read? s = some v) :
    read? (trim s) = some v ∧ ∀ c ∈ s, State.isSpace c = false → c ∈ trim s := by
  obtain ⟨before, after, split, blankBefore, blankAfter⟩ := Text.exists_trim s
  rw [split] at h
  obtain ⟨spacesBefore, rest⟩ := read?_of_append_blank blankBefore h
  obtain ⟨spacesAfter, read⟩ := read?_of_blank_append blankAfter rest
  refine ⟨read, ?_⟩
  intro c hc notSpace
  rw [split, List.mem_append, List.mem_append] at hc
  rcases hc with hc | hc | hc
  · rw [spacesBefore c hc] at notSpace
    cases notSpace
  · exact hc
  · rw [spacesAfter c hc] at notSpace
    cases notSpace

/-- **A text that can be read holds no control character** but white space. -/
theorem isSpace_of_read? {s : List Char} {v : Value} (h : read? s = some v) {c : Char}
    (hc : c ∈ s) (control : c.toNat < 0x20) : State.isSpace c = true := by
  cases space : State.isSpace c with
  | true => rfl
  | false =>
    obtain ⟨before, after, rfl⟩ := List.append_of_mem hc
    rw [read?, State.run_append, State.run_cons, State.step_control control space,
      State.run_failure] at h
    cases h

end OwnerBuild.Json
