/-
# OwnerBuild.Proofs.Json.Written -- reading back what is written

The compact form of a value is one of its texts (`spells_write`), provided the value fits: it is
nowhere deeper than the reader goes, and the sign and integer part of each of its numbers are
not too long. So it is read as that value, like all of its texts.

The limits are exact: where a value does not fit, reading fails at the first of its
parts that does not (`run_write_failure`), so that its compact form says nothing at all
(`read?_write_eq_none`). `isPlain_of_mem_write` says that the compact form is one line of
printable ASCII.
-/

import Mathlib.Data.List.Forall2
import OwnerBuild.Proofs.Json.Numerals

namespace OwnerBuild.Json

/-! ## The compact form as a text of the value -/

theorem spellsUnit_escapeUnit {n : Nat} (small : n < 0x10000) : SpellsUnit n (escapeUnit n) :=
  .mk small (List.forall₂_same.mpr fun _ _ => .inl rfl)

/-- **A written character is one of its spellings.** -/
theorem spellsChar_writeChar (c : Char) : SpellsChar (writeChar c) c := by
  have valid := toNat_not_surrogate c
  unfold writeChar
  split
  · next mark =>
    rcases (Bool.or_eq_true _ _).mp mark with h | h
    · rw [beq_iff_eq.mp h]
      exact .short (by decide)
    · rw [beq_iff_eq.mp h]
      exact .short (by decide)
  next notMark =>
  simp only [Bool.or_eq_true, beq_iff_eq, not_or] at notMark
  split
  · next printable =>
    simp only [Bool.and_eq_true, decide_eq_true_eq] at printable
    exact .plain printable.1 notMark.1 notMark.2
  split
  · next small => exact .unit (spellsUnit_escapeUnit small)
  · next large =>
    exact .pair (by omega) (spellsUnit_escapeUnit (by omega)) (spellsUnit_escapeUnit (by omega))

theorem spellsChars_flatMap (s : List Char) : SpellsChars (s.flatMap writeChar) s := by
  induction s with
  | nil => exact .nil
  | cons c s ih => exact .cons (spellsChar_writeChar c) ih

theorem spellsString_writeString (s : String) : SpellsString (writeString s.toList) s :=
  .mk (spellsChars_flatMap s.toList)

theorem spellsKey_write (key : String) : SpellsKey (writeString key.toList ++ [':']) key := by
  have none : IsGap [] := List.forall_mem_nil _
  exact SpellsKey.mk none (spellsString_writeString key) none

/-- A text of a value needs no white space around it. -/
theorem Spells.spaced {s : List Char} {v : Value} (h : Spells s v) : SpellsSpaced s v := by
  have none : IsGap [] := List.forall_mem_nil _
  simpa using SpellsSpaced.mk none h none

mutual
/-- **The compact form of a value that fits is one of its texts.** -/
theorem spells_write : ∀ (v : Value) (outer : Nat), v.Fits Number.IsWritable outer →
    Spells v.write v
  | .null, _, _ => .null
  | .bool true, _, _ => .yes
  | .bool false, _, _ => .no
  | .number n, _, fit => by
    rw [Value.write]
    exact .number (spellsNumber_write (fits_number.mp fit).2)
  | .string s, _, _ => by
    rw [Value.write]
    exact .string (spellsString_writeString s)
  | .array items, outer, fit => by
    rw [Value.write, List.cons_append]
    exact .array (spellsItems_write items (outer + 1) (fits_array.mp fit).2)
  | .object members, outer, fit => by
    rw [Value.write, List.cons_append]
    exact .object (spellsMembers_write members (outer + 1) (fits_object.mp fit).2)

theorem spellsItems_write : ∀ (items : List Value) (outer : Nat),
    (∀ v ∈ items, v.Fits Number.IsWritable outer) → SpellsItems (writeItems items) items
  | [], _, _ => .none (List.forall_mem_nil _)
  | [v], outer, fits => by
    rw [writeItems]
    exact .last (spells_write v outer (fits v (by simp))).spaced
  | v :: w :: rest, outer, fits => by
    rw [writeItems]
    exact .more (spells_write v outer (fits v (by simp))).spaced
      (spellsItems_write (w :: rest) outer fun u hu => fits u (List.mem_cons_of_mem _ hu))

theorem spellsMembers_write : ∀ (members : List (String × Value)) (outer : Nat),
    (∀ m ∈ members, m.2.Fits Number.IsWritable outer) → SpellsMembers (writeMembers members) members
  | [], _, _ => .none (List.forall_mem_nil _)
  | [(key, v)], outer, fits => by
    rw [writeMembers, List.append_cons]
    exact .last (spellsKey_write key) (spells_write v outer (fits (key, v) (by simp))).spaced
  | (key, v) :: m :: rest, outer, fits => by
    rw [writeMembers, List.append_assoc, List.cons_append, List.append_cons]
    exact .more (spellsKey_write key) (spells_write v outer (fits (key, v) (by simp))).spaced
      (spellsMembers_write (m :: rest) outer fun n hn => fits n (List.mem_cons_of_mem _ hn))
end

/-- **The compact form of a value that fits is read as that value.** -/
theorem read?_write {v : Value} (fit : v.Fits Number.IsWritable 0) : read? v.write = some v :=
  read?_of_spells (spells_write v 0 fit).spaced fit

/-! ## Values beyond the limits -/

namespace State

variable {stack : List Frame} {mayClose : Bool} {c : Char} {rest : List Char}

/-- No value begins with white space or a closing bracket. -/
theorem exists_head_write (v : Value) :
    ∃ d tail, v.write = d :: tail ∧ isSpace d = false ∧ d ≠ ']' := by
  have literal {s : List Char} (hs : s ≠ []) (h : ∀ d ∈ s, isLiteralChar d = true) :
      ∃ d tail, s = d :: tail ∧ isSpace d = false ∧ d ≠ ']' := by
    cases s with
    | nil => exact absurd rfl hs
    | cons d tail =>
      have first := h d List.mem_cons_self
      refine ⟨d, tail, rfl, ?_, ne_of_class first (by decide)⟩
      cases space : isSpace d with
      | false => rfl
      | true =>
        rw [not_isLiteralChar_of_isSpace space] at first
        cases first
  cases v with
  | null => exact ⟨_, _, rfl, by decide, by decide⟩
  | bool b => cases b <;> exact ⟨_, _, rfl, by decide, by decide⟩
  | number n =>
    rw [Value.write]
    exact literal (write_ne_nil n) fun d => isLiteralChar_of_mem_write
  | string s =>
    rw [Value.write]
    exact ⟨_, _, rfl, by decide, by decide⟩
  | array items =>
    rw [Value.write]
    exact ⟨_, _, rfl, by decide, by decide⟩
  | object members =>
    rw [Value.write]
    exact ⟨_, _, rfl, by decide, by decide⟩

/-- A run of literal characters that says nothing is the end of reading. -/
theorem run_literal_none {s rest : List Char} (h : ∀ c ∈ s, isLiteralChar c = true)
    (hs : s ≠ []) (depth : stack.length ≤ deepest) (said : readLiteral? s = none)
    (hc : isLiteralChar c = false) :
    (⟨stack, .value mayClose⟩ : State).run (s ++ c :: rest) = failure := by
  rw [run_append, run_value_literal h hs depth, run_cons]
  simp only [step, hc, Bool.false_eq_true, if_false, List.reverse_reverse, said, run_failure]

/-- A written key with its colon, from where a key may begin. -/
theorem run_key {members : List (String × Value)} {old key : String} :
    (⟨.object members old :: stack, .key mayClose⟩ : State).run
        (writeString key.toList ++ ':' :: rest) =
      (⟨.object members key :: stack, .value false⟩ : State).run rest := by
  rw [List.append_cons]
  exact (spellsKey_write key).run

/-- A value that begins too deep is refused at its first character. -/
theorem run_write_deep (v : Value) (depth : ¬ stack.length ≤ deepest) :
    (⟨stack, .value mayClose⟩ : State).run (v.write ++ rest) = failure := by
  obtain ⟨d, tail, shape, space, bracket⟩ := exists_head_write v
  have refused : openValue stack d = failure := if_pos (Nat.lt_of_not_le depth)
  rw [shape, List.cons_append, run_cons, step_value space bracket, refused, run_failure]

mutual
/-- **A written value that does not fit is the end of reading**, wherever it begins. -/
theorem run_write_failure : ∀ (v : Value) (stack : List Frame) (mayClose : Bool) (c : Char)
    (rest : List Char), ¬ v.Fits Number.IsWritable stack.length → isLiteralChar c = false →
    (⟨stack, .value mayClose⟩ : State).run (v.write ++ c :: rest) = failure
  | .null, stack, mayClose, c, rest, unfit, _ =>
    run_write_deep .null fun depth => unfit (fits_null.mpr depth)
  | .bool b, stack, mayClose, c, rest, unfit, _ =>
    run_write_deep (.bool b) fun depth => unfit (fits_bool.mpr depth)
  | .string s, stack, mayClose, c, rest, unfit, _ =>
    run_write_deep (.string s) fun depth => unfit (fits_string.mpr depth)
  | .number n, stack, mayClose, c, rest, unfit, hc => by
    by_cases depth : stack.length ≤ deepest
    · have long : ¬ n.IsWritable := fun writable => unfit (fits_number.mpr ⟨depth, writable⟩)
      rw [Value.write]
      exact run_literal_none (fun d => isLiteralChar_of_mem_write) (write_ne_nil n) depth
        (readLiteral?_write_long long) hc
    · exact run_write_deep (.number n) depth
  | .array items, stack, mayClose, c, rest, unfit, _ => by
    by_cases depth : stack.length ≤ deepest
    · -- the array may begin here, so it is one of its items that does not fit
      have inner : ¬ ∀ v ∈ items, v.Fits Number.IsWritable (stack.length + 1) :=
        fun fits => unfit (fits_array.mpr ⟨depth, fits⟩)
      rw [Value.write, List.cons_append, List.cons_append, List.append_assoc, run_cons,
        step_value_bracket depth]
      exact run_writeItems_failure items [] stack true (c :: rest) inner
    · exact run_write_deep (.array items) depth
  | .object members, stack, mayClose, c, rest, unfit, _ => by
    by_cases depth : stack.length ≤ deepest
    · have inner : ¬ ∀ m ∈ members, m.2.Fits Number.IsWritable (stack.length + 1) :=
        fun fits => unfit (fits_object.mpr ⟨depth, fits⟩)
      rw [Value.write, List.cons_append, List.cons_append, List.append_assoc, run_cons,
        step_value_brace depth]
      exact run_writeMembers_failure members [] "" stack true (c :: rest) inner
    · exact run_write_deep (.object members) depth

/-- Reading ends at the first item of an array that does not fit. -/
theorem run_writeItems_failure : ∀ (items read : List Value) (stack : List Frame)
    (mayClose : Bool) (rest : List Char),
    (¬ ∀ v ∈ items, v.Fits Number.IsWritable (stack.length + 1)) →
    (⟨.array read :: stack, .value mayClose⟩ : State).run (writeItems items ++ ']' :: rest) =
      failure
  | [], _, _, _, _, unfit => absurd (by simp) unfit
  | [v], read, stack, mayClose, rest, unfit => by
    rw [writeItems]
    exact run_write_failure v (.array read :: stack) mayClose ']' rest
      (fun fit => unfit (by simpa using fit)) (by decide)
  | v :: w :: items, read, stack, mayClose, rest, unfit => by
    rw [writeItems, List.append_assoc, List.cons_append]
    -- the first item is the end of reading, or it is delivered and a later one is
    by_cases fit : v.Fits Number.IsWritable (stack.length + 1)
    · have others : ¬ ∀ u ∈ w :: items, u.Fits Number.IsWritable (stack.length + 1) :=
        fun fits => unfit (List.forall_mem_cons.mpr ⟨fit, fits⟩)
      rw [(spells_write v _ fit).run (.array read :: stack) mayClose ',' _ fit (by decide), run_cons,
        step_comma_array]
      exact run_writeItems_failure (w :: items) (v :: read) stack false rest others
    · exact run_write_failure v (.array read :: stack) mayClose ',' _ fit (by decide)

/-- Reading ends at the first member of an object that does not fit. -/
theorem run_writeMembers_failure : ∀ (members read : List (String × Value)) (key : String)
    (stack : List Frame) (mayClose : Bool) (rest : List Char),
    (¬ ∀ m ∈ members, m.2.Fits Number.IsWritable (stack.length + 1)) →
    (⟨.object read key :: stack, .key mayClose⟩ : State).run
        (writeMembers members ++ '\x7d' :: rest) = failure
  | [], _, _, _, _, _, unfit => absurd (by simp) unfit
  | [(k, v)], read, key, stack, mayClose, rest, unfit => by
    rw [writeMembers, List.append_assoc, List.cons_append, run_key]
    exact run_write_failure v (.object read k :: stack) false '\x7d' rest
      (fun fit => unfit (by simpa using fit)) (by decide)
  | (k, v) :: m :: members, read, key, stack, mayClose, rest, unfit => by
    rw [writeMembers, List.append_assoc, List.append_assoc, List.cons_append, List.cons_append,
      run_key]
    by_cases fit : v.Fits Number.IsWritable (stack.length + 1)
    · have others : ¬ ∀ n ∈ m :: members, n.2.Fits Number.IsWritable (stack.length + 1) :=
        fun fits => unfit (List.forall_mem_cons.mpr ⟨fit, fits⟩)
      rw [(spells_write v _ fit).run (.object read k :: stack) false ',' _ fit (by decide), run_cons,
        step_comma_object]
      exact run_writeMembers_failure (m :: members) ((k, v) :: read) k stack false rest others
    · exact run_write_failure v (.object read k :: stack) false ',' _ fit (by decide)
end

end State

/-- **The compact form of a value that does not fit says nothing**, so the limits that
`Value.Fits` states are exactly those of the reader. -/
theorem read?_write_eq_none {v : Value} (unfit : ¬ v.Fits Number.IsWritable 0) :
    read? v.write = none := by
  have run : State.start.run (v.write ++ ['\n']) = State.failure :=
    State.run_write_failure v [] false '\n' [] unfit (by decide)
  rw [← read?_append_space v.write ['\n'] (by simp [State.isSpace]), read?, run]
  rfl

/-! ## The characters of the compact form -/

/-- The printable characters of ASCII. -/
def isPlain (c : Char) : Bool := 0x20 ≤ c.toNat && c.toNat < 0x7f

theorem isPlain_of_isLiteralChar {c : Char} (h : isLiteralChar c = true) : isPlain c = true := by
  have bounds := State.isLiteralChar_bounds h
  simp only [isPlain, Bool.and_eq_true, decide_eq_true_eq]
  omega

theorem isPlain_of_mem_escapeUnit {n : Nat} {c : Char} (h : c ∈ escapeUnit n) :
    isPlain c = true := by
  have digit : ∀ d < 16, isPlain (Text.hexDigit d) = true := by decide
  rw [escapeUnit, Text.hexDigits_four] at h
  simp only [List.mem_cons, List.not_mem_nil, or_false] at h
  rcases h with rfl | rfl | rfl | rfl | rfl | rfl
  · decide
  · decide
  all_goals exact digit _ (by omega)

theorem isPlain_of_mem_writeChar {c d : Char} (h : d ∈ writeChar c) : isPlain d = true := by
  unfold writeChar at h
  split at h
  · next mark =>
    simp only [Bool.or_eq_true, beq_iff_eq] at mark
    simp only [List.mem_cons, List.not_mem_nil, or_false] at h
    rcases h with rfl | rfl
    · decide
    · rcases mark with rfl | rfl <;> decide
  split at h
  · next plain =>
    obtain rfl := List.mem_singleton.mp h
    exact plain
  split at h
  · exact isPlain_of_mem_escapeUnit h
  · rcases List.mem_append.mp h with h | h
    · exact isPlain_of_mem_escapeUnit h
    · exact isPlain_of_mem_escapeUnit h

theorem isPlain_of_mem_writeString {s : List Char} {c : Char} (h : c ∈ writeString s) :
    isPlain c = true := by
  simp only [writeString, List.cons_append, List.mem_cons, List.mem_append, List.mem_flatMap,
    List.not_mem_nil, or_false] at h
  rcases h with rfl | ⟨d, -, h⟩ | rfl
  · decide
  · exact isPlain_of_mem_writeChar h
  · decide

mutual
/-- **The compact form of a value is one line of printable ASCII.** -/
theorem isPlain_of_mem_write : ∀ (v : Value), ∀ c ∈ v.write, isPlain c = true
  | .null => List.all_eq_true.mp (by decide)
  | .bool true => List.all_eq_true.mp (by decide)
  | .bool false => List.all_eq_true.mp (by decide)
  | .number n => by
    intro c h
    rw [Value.write] at h
    exact isPlain_of_isLiteralChar (isLiteralChar_of_mem_write h)
  | .string s => by
    intro c h
    rw [Value.write] at h
    exact isPlain_of_mem_writeString h
  | .array items => by
    intro c h
    rw [Value.write, List.cons_append, List.mem_cons, List.mem_append, List.mem_singleton] at h
    rcases h with rfl | h | rfl
    · decide
    · exact isPlain_of_mem_writeItems items c h
    · decide
  | .object members => by
    intro c h
    rw [Value.write, List.cons_append, List.mem_cons, List.mem_append, List.mem_singleton] at h
    rcases h with rfl | h | rfl
    · decide
    · exact isPlain_of_mem_writeMembers members c h
    · decide

theorem isPlain_of_mem_writeItems : ∀ (items : List Value), ∀ c ∈ writeItems items,
    isPlain c = true
  | [] => by simp [writeItems]
  | [v] => by
    intro c h
    rw [writeItems] at h
    exact isPlain_of_mem_write v c h
  | v :: w :: items => by
    intro c h
    rw [writeItems, List.mem_append, List.mem_cons] at h
    rcases h with h | rfl | h
    · exact isPlain_of_mem_write v c h
    · decide
    · exact isPlain_of_mem_writeItems (w :: items) c h

theorem isPlain_of_mem_writeMembers : ∀ (members : List (String × Value)),
    ∀ c ∈ writeMembers members, isPlain c = true
  | [] => by simp [writeMembers]
  | [(k, v)] => by
    intro c h
    rw [writeMembers, List.mem_append, List.mem_cons] at h
    rcases h with h | rfl | h
    · exact isPlain_of_mem_writeString h
    · decide
    · exact isPlain_of_mem_write v c h
  | (k, v) :: m :: members => by
    intro c h
    rw [writeMembers, List.append_assoc, List.mem_append, List.cons_append, List.mem_cons,
      List.mem_append, List.mem_cons] at h
    rcases h with h | rfl | h | rfl | h
    · exact isPlain_of_mem_writeString h
    · decide
    · exact isPlain_of_mem_write v c h
    · decide
    · exact isPlain_of_mem_writeMembers (m :: members) c h
end

end OwnerBuild.Json
