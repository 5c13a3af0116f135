/-
# OwnerBuild.Proofs.Json.Numerals -- numbers as they are written

A number that is written is one of its literals, or no literal at all, and what decides is how
many digits its integer part has (`spellsNumber_write`, `readLiteral?_write_long`). The bound
is exact and the same for integers and decimals.
-/

import OwnerBuild.Proofs.Json.Spelling

namespace OwnerBuild.Json

open Text (decimalDigits digitsValue signed signedDigits)

/-! ## Signed digits -/

theorem areDigits_decimalDigits (n : Nat) : AreDigits (decimalDigits n) :=
  ⟨Text.decimalDigits_ne_nil n, fun _ => Text.isDigit_of_mem_decimalDigits⟩

theorem isLiteralChar_of_mem_signedDigits {n : Int} {c : Char} (h : c ∈ signedDigits n) :
    isLiteralChar c = true := by
  rcases Text.mem_signedDigits h with rfl | h
  · decide
  · exact isLiteralChar_of_isDigit h

/-- A signed number is its digits behind its sign. -/
theorem signedDigits_eq (n : Int) :
    signedDigits n = minus (decide (n < 0)) ++ decimalDigits n.natAbs := by
  by_cases sign : n < 0
  · rw [Text.signedDigits_of_neg sign, minus, if_pos (decide_eq_true sign)]
    rfl
  · rw [Text.signedDigits_of_nonneg sign, minus, if_neg (by simp [sign]), List.nil_append]

/-- The digits of a signed number are its value. -/
theorem signed_digitsValue (n : Int) :
    signed (decide (n < 0)) (digitsValue (decimalDigits n.natAbs)) = n := by
  rw [Text.digitsValue_decimalDigits, Text.signed_natAbs]

/-- Digits that are not too many are an integer part. -/
theorem isWhole_decimalDigits {n : Nat} (short : (decimalDigits n).length ≤ longestInteger) :
    IsWhole (decimalDigits n) := by
  refine ⟨areDigits_decimalDigits n, ?_⟩
  by_cases zero : n = 0
  · left
    rw [zero, Text.decimalDigits_of_lt (by decide)]
    rfl
  · exact .inr ⟨Text.head?_decimalDigits_ne_zero zero, short⟩

/-- More digits than that are none. -/
theorem isIntegerPart_decimalDigits_long {n : Nat}
    (long : ¬ (decimalDigits n).length ≤ longestInteger) :
    isIntegerPart (decimalDigits n) = false := by
  cases digits : decimalDigits n with
  | nil => exact absurd digits (Text.decimalDigits_ne_nil _)
  | cons d rest =>
    rw [digits] at long
    unfold isIntegerPart
    split
    · rfl
    · next single =>
      -- a single zero is never too long
      have limit : 1 ≤ longestInteger := by decide
      rw [single] at long
      exact absurd limit long
    · simp only [long, decide_false, Bool.and_false]

/-! ## Literals -/

/-- A number whose integer part, as it is written, has no more digits than can be read. -/
def Number.IsWritable : Number → Prop
  | .integer n => (decimalDigits n.natAbs).length ≤ longestInteger
  | .decimal m _ => (decimalDigits m.natAbs).length ≤ longestInteger
  | .unbounded => True

theorem isLiteralChar_of_mem_write {n : Number} {c : Char} (h : c ∈ n.write) :
    isLiteralChar c = true := by
  cases n with
  | integer n => exact isLiteralChar_of_mem_signedDigits h
  | decimal m e =>
    rcases List.mem_append.mp h with h | h
    · exact isLiteralChar_of_mem_signedDigits h
    rcases List.mem_cons.mp h with rfl | h
    · decide
    · exact isLiteralChar_of_mem_signedDigits h
  | unbounded =>
    have all : "NaN".toList.all isLiteralChar = true := by decide
    exact List.all_eq_true.mp all c h

theorem write_ne_nil (n : Number) : n.write ≠ [] := by
  cases n with
  | integer n => exact Text.signedDigits_ne_nil n
  | decimal m e => simp [Number.write]
  | unbounded => decide

theorem spellsExponent_signedDigits (e : Int) : SpellsExponent ('e' :: signedDigits e) e := by
  have digits := areDigits_decimalDigits e.natAbs
  have value := signed_digitsValue e
  by_cases sign : e < 0
  · rw [Text.signedDigits_of_neg sign]
    simp only [sign, decide_true, signed, if_true] at value
    have literal := SpellsExponent.minus (.inl (rfl : 'e' = 'e')) digits
    rwa [value] at literal
  · rw [Text.signedDigits_of_nonneg sign]
    simp only [sign, decide_false, signed, Bool.false_eq_true, if_false] at value
    have literal := SpellsExponent.unsigned (.inl (rfl : 'e' = 'e')) digits
    rwa [value] at literal

/-- **A number that is not too long is written as one of its literals.** -/
theorem spellsNumber_write {n : Number} (h : n.IsWritable) : SpellsNumber n.write n := by
  cases n with
  | integer n =>
    have literal := @SpellsNumber.integer (decide (n < 0)) _ (isWhole_decimalDigits h)
    rwa [← signedDigits_eq, signed_digitsValue] at literal
  | decimal m e =>
    have literal := @SpellsNumber.decimal (decide (m < 0)) _ _ _ _ _ (isWhole_decimalDigits h) .none
      (spellsExponent_signedDigits e) (by simp)
    rwa [List.nil_append, ← List.append_assoc, ← signedDigits_eq, List.append_nil,
      signed_digitsValue, List.length_nil, Int.natCast_zero, Int.sub_zero] at literal
  | unbounded => exact .word (by decide)

/-- Nothing is said by a number that is too long, whatever stands behind it. -/
theorem readLiteral?_signedDigits_long {n : Int} (rest : List Char)
    (long : ¬ (decimalDigits n.natAbs).length ≤ longestInteger)
    (behind : ∀ c, rest.head? = some c → c.isDigit = false) :
    readLiteral? (signedDigits n ++ rest) = none := by
  have digits := areDigits_decimalDigits n.natAbs
  have refused : ¬ isIntegerPart (decimalDigits n.natAbs) = true := by
    rw [isIntegerPart_decimalDigits_long long]
    exact Bool.false_ne_true
  rw [signedDigits_eq, List.append_assoc, readLiteral?, digits.lookup_eq_none, digits.readNumber?,
    readUnsigned?]
  simp only [(takeWhile_digits rest digits.2 behind).1, if_neg refused, Option.map_none]

/-- **A number that is too long is no literal.** -/
theorem readLiteral?_write_long {n : Number} (h : ¬ n.IsWritable) :
    readLiteral? n.write = none := by
  cases n with
  | integer n =>
    have none := readLiteral?_signedDigits_long [] h (by simp)
    rwa [List.append_nil] at none
  | decimal m e => exact readLiteral?_signedDigits_long _ h (by simp)
  | unbounded => exact absurd trivial h

end OwnerBuild.Json
