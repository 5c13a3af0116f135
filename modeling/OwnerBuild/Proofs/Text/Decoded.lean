/-
# OwnerBuild.Proofs.Text.Decoded -- what a program wrote, read in parts

Behind the byte of a line feed reading starts afresh, whatever stands in front of it, and
so it does behind every byte that is a character by itself. No sequence of several bytes goes
on with such a byte: the machine only ever waits for bytes from 0x80 on
(`stateAfter_waitsForTail`), so a sequence that was begun is replaced just as the end of the
input would have it replaced. The line feed itself is kept, unless a carriage return stands
in front of it; then the two are one break, and the break is there already.
`exists_decode_append_newline` says both at once.

What is read of the two parts is therefore what is read of each of them, for every reader
that asks for lines.
-/

import OwnerBuild.Proofs.Text.Lines
import OwnerBuild.Text.Utf8

namespace OwnerBuild.Text

/-- The byte of a line feed. -/
def newline : UInt8 := 0x0a

/-! ## The byte machine at a character of one byte -/

namespace Utf8State

/-- Whether a state is between sequences or waits for a byte that begins none. -/
def WaitsForTail : Utf8State → Prop
  | .between => True
  | .within _ _ low _ => 0x80 ≤ low

theorem begin_waitsForTail (b : UInt8) : (begin b).1.WaitsForTail := by
  unfold begin
  dsimp only
  repeat' split
  all_goals simp [WaitsForTail]

theorem step_waitsForTail (q : Utf8State) (b : UInt8) : (q.step b).1.WaitsForTail := by
  cases q with
  | between => exact begin_waitsForTail b
  | within value due low high =>
    rw [step]
    split
    · dsimp only
      split
      · exact trivial
      · exact Nat.le_refl _
    · exact begin_waitsForTail b

/-- A byte that is a character by itself ends what was begun, as the end of the input does. -/
theorem step_ascii {q : Utf8State} (h : q.WaitsForTail) {b : UInt8} (ascii : b.toNat < 0x80) :
    q.step b = (.between, q.finish ++ [Char.ofNat b.toNat]) := by
  have alone : begin b = (.between, [Char.ofNat b.toNat]) := by
    unfold begin
    dsimp only
    rw [if_pos ascii]
  cases q with
  | between => exact alone
  | within value due low high =>
    have notDue : ¬ (low ≤ b.toNat ∧ b.toNat ≤ high) := by
      have waits : 0x80 ≤ low := h
      omega
    rw [step, if_neg notDue, alone]
    rfl

end Utf8State

/-- After any bytes the machine is between sequences or waits for a byte that begins none. -/
theorem stateAfter_waitsForTail {q : Utf8State} (h : q.WaitsForTail) (xs : List UInt8) :
    (stateAfter q xs).WaitsForTail := by
  induction xs generalizing q with
  | nil => exact h
  | cons b xs ih => exact ih (q.step_waitsForTail b)

/-- The text of some bytes is what they complete, and a sign for what they do not. -/
theorem decodeFrom_eq_emitted (q : Utf8State) (xs : List UInt8) :
    decodeFrom q xs = emitted q xs ++ (stateAfter q xs).finish := by
  have whole := decodeFrom_append q xs []
  rwa [List.append_nil] at whole

/-- **Bytes are read in two parts at one that is a character by itself**, even if it cuts a
sequence short. -/
theorem decodeFrom_append_ascii {q : Utf8State} (h : q.WaitsForTail) (xs ys : List UInt8)
    {b : UInt8} (ascii : b.toNat < 0x80) :
    decodeFrom q (xs ++ b :: ys) =
      decodeFrom q xs ++ Char.ofNat b.toNat :: decodeFrom .between ys := by
  have waits := stateAfter_waitsForTail h xs
  calc decodeFrom q (xs ++ b :: ys)
      = emitted q xs ++ decodeFrom (stateAfter q xs) (b :: ys) := decodeFrom_append q xs _
    _ = emitted q xs ++
          ((stateAfter q xs).finish ++ [Char.ofNat b.toNat] ++ decodeFrom .between ys) := by
        rw [decodeFrom, Utf8State.step_ascii waits ascii]
    _ = decodeFrom q xs ++ Char.ofNat b.toNat :: decodeFrom .between ys := by
        rw [decodeFrom_eq_emitted q xs]
        simp only [List.append_assoc, List.singleton_append]

/-- Bytes are read in two parts at a line feed. -/
theorem decodeFrom_append_newline {q : Utf8State} (h : q.WaitsForTail) (xs ys : List UInt8) :
    decodeFrom q (xs ++ newline :: ys) =
      decodeFrom q xs ++ '\n' :: decodeFrom .between ys :=
  decodeFrom_append_ascii h xs ys (by decide)

/-! ## Line ends at a line feed -/

/-- Line ends are unified in two parts at a line feed. If the first part ends in a carriage
return then the break is the one that became of that, and only behind a carriage return is
there none. -/
theorem exists_unifyBreaksFrom_append_newline (b : Bool) (xs ys : List Char) :
    (b = true ∧ xs = []) ∨
      ∃ front, unifyBreaksFrom b (xs ++ '\n' :: ys) = front ++ '\n' :: unifyBreaksFrom false ys ∧
        (unifyBreaksFrom b xs = front ∨ unifyBreaksFrom b xs = front ++ ['\n']) := by
  induction xs generalizing b with
  | nil =>
    cases b with
    | true => exact .inl ⟨rfl, rfl⟩
    | false => exact .inr ⟨[], rfl, .inl rfl⟩
  | cons c xs ih =>
    refine .inr ?_
    simp only [List.cons_append, unifyBreaksFrom]
    split
    · -- the carriage return has become the break, and a line feed right behind it is taken
      rcases ih true with ⟨-, rfl⟩ | ⟨front, whole, part⟩
      · exact ⟨[], rfl, .inr rfl⟩
      · refine ⟨'\n' :: front, by rw [whole, List.cons_append], ?_⟩
        rcases part with part | part
        · exact .inl (by rw [part])
        · exact .inr (by rw [part, List.cons_append])
    split
    · rcases ih false with ⟨absurd, -⟩ | split
      · cases absurd
      · exact split
    · rcases ih false with ⟨absurd, -⟩ | ⟨front, whole, part⟩
      · cases absurd
      · refine ⟨c :: front, by rw [whole, List.cons_append], ?_⟩
        rcases part with part | part
        · exact .inl (by rw [part])
        · exact .inr (by rw [part, List.cons_append])

/-! ## What a program wrote -/

/-- **The text of bytes with a line feed among them** is the text of what stands before it,
a break, and the text of what stands behind; the break may be one that the first text ends
with already. -/
theorem exists_decode_append_newline (xs ys : List UInt8) :
    ∃ front, decode (xs ++ newline :: ys) = front ++ '\n' :: decode ys ∧
      (decode xs = front ∨ decode xs = front ++ ['\n']) := by
  have bytes := decodeFrom_append_newline (q := .between) trivial xs ys
  simp only [decode, unifyBreaks, bytes]
  rcases exists_unifyBreaksFrom_append_newline false (decodeFrom .between xs)
    (decodeFrom .between ys) with ⟨absurd, -⟩ | split
  · cases absurd
  · exact split

/-- A reader of lines that takes nothing from an empty line reads what was written before
a line feed and what was written behind it on their own. -/
theorem flatMap_lines_decode_append_newline {α : Type} {f : List Char → List α} (empty : f [] = [])
    (xs ys : List UInt8) :
    (lines (decode (xs ++ newline :: ys))).flatMap f =
      (lines (decode xs)).flatMap f ++ (lines (decode ys)).flatMap f := by
  obtain ⟨front, whole, part⟩ := exists_decode_append_newline xs ys
  rw [whole, flatMap_lines_append_newline empty]
  rcases part with part | part
  · rw [part]
  · rw [part, flatMap_lines_append_newline empty, lines_nil, List.flatMap_nil, List.append_nil]

/-- What is read of parts that are joined by line feeds is what is read of each. -/
theorem flatMap_lines_decode_intercalate {α : Type} {f : List Char → List α} (empty : f [] = [])
    (parts : List (List UInt8)) :
    (lines (decode ([newline].intercalate parts))).flatMap f =
      parts.flatMap fun part => (lines (decode part)).flatMap f := by
  induction parts with
  | nil => rfl
  | cons part rest ih =>
    cases rest with
    | nil => simp
    | cons next others =>
      rw [List.flatMap_cons, List.intercalate_cons_cons, List.append_assoc, List.singleton_append,
        flatMap_lines_decode_append_newline empty, ih]

end OwnerBuild.Text
