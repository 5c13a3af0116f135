/-
# OwnerBuild.Proofs.Text.Digits -- the digits of a number

What can be said of the digits of a natural number without computing them: there are
some, all of them are decimal digits, none is superfluous, and there are at most `k`
of them exactly when the number is less than the `k`-th power of ten. The other way
round, `k` digits write a number below that power. Together these turn a limit on the
length of a numeral into a limit on its value, and back.

Hexadecimal digits read back one by one; the four digits of a code are all that is
ever written of them.
-/

import Mathlib.Algebra.Group.Nat.Defs
import Mathlib.Data.List.Induction
import OwnerBuild.Json.Reader

namespace OwnerBuild.Text

/-! ## Decimal digits -/

theorem decimalDigit_isDigit {d : Nat} (h : d < 10) : (decimalDigit d).isDigit = true := by
  have all : ∀ d < 10, (decimalDigit d).isDigit = true := by decide
  exact all d h

theorem decimalDigit_ne_zero {d : Nat} (h : d < 10) (hd : d ≠ 0) : decimalDigit d ≠ '0' := by
  have all : ∀ d < 10, d ≠ 0 → decimalDigit d ≠ '0' := by decide
  exact all d h hd

theorem decimalDigits_of_lt {n : Nat} (h : n < 10) : decimalDigits n = [decimalDigit n] := by
  rw [decimalDigits, if_pos h]

theorem decimalDigits_of_ge {n : Nat} (h : ¬ n < 10) :
    decimalDigits n = decimalDigits (n / 10) ++ [decimalDigit (n % 10)] := by
  rw [decimalDigits, if_neg h]

theorem decimalDigits_ne_nil (n : Nat) : decimalDigits n ≠ [] := by
  by_cases h : n < 10
  · simp [decimalDigits_of_lt h]
  · simp [decimalDigits_of_ge h]

theorem isDigit_of_mem_decimalDigits {n : Nat} {c : Char} (hc : c ∈ decimalDigits n) :
    c.isDigit = true := by
  induction n using Nat.strongRecOn with
  | ind n ih =>
    by_cases h : n < 10
    · rw [decimalDigits_of_lt h, List.mem_singleton] at hc
      exact hc ▸ decimalDigit_isDigit h
    · rw [decimalDigits_of_ge h, List.mem_append, List.mem_singleton] at hc
      rcases hc with hc | rfl
      · exact ih (n / 10) (by omega) hc
      · exact decimalDigit_isDigit (Nat.mod_lt _ (by decide))

/-- Only zero begins with a zero. -/
theorem head?_decimalDigits_ne_zero {n : Nat} (hn : n ≠ 0) :
    (decimalDigits n).head? ≠ some '0' := by
  induction n using Nat.strongRecOn with
  | ind n ih =>
    by_cases h : n < 10
    · rw [decimalDigits_of_lt h]
      simpa using decimalDigit_ne_zero h hn
    · have front := ih (n / 10) (by omega) (by omega)
      rw [decimalDigits_of_ge h]
      cases digits : decimalDigits (n / 10) with
      | nil => exact absurd digits (decimalDigits_ne_nil _)
      | cons d ds => rwa [digits] at front

/-- **A number has at most `k` digits exactly when it is below the `k`-th power of
ten.** -/
theorem length_decimalDigits_le_iff {n k : Nat} (hk : 0 < k) :
    (decimalDigits n).length ≤ k ↔ n < 10 ^ k := by
  induction n using Nat.strongRecOn generalizing k with
  | ind n ih =>
    obtain ⟨j, rfl⟩ : ∃ j, k = j + 1 := ⟨k - 1, by omega⟩
    by_cases h : n < 10
    · have : 10 ≤ 10 ^ (j + 1) := Nat.le_self_pow (by omega) 10
      rw [decimalDigits_of_lt h]
      simp only [List.length_singleton]
      omega
    · rw [decimalDigits_of_ge h, List.length_append, List.length_singleton]
      cases j with
      | zero =>
        have := List.length_pos_iff.mpr (decimalDigits_ne_nil (n / 10))
        omega
      | succ i =>
        have inner := ih (n / 10) (by omega) (k := i + 1) (by omega)
        have power : 10 ^ (i + 1 + 1) = 10 ^ (i + 1) * 10 := Nat.pow_succ 10 (i + 1)
        have shifted : n / 10 < 10 ^ (i + 1) ↔ n < 10 ^ (i + 1) * 10 :=
          Nat.div_lt_iff_lt_mul (by decide)
        rw [power, ← shifted, ← inner]
        omega

/-- Digits write a number below the power of ten that their length says. -/
theorem digitsValue_lt {digits : List Char} (h : ∀ c ∈ digits, c.isDigit = true) :
    digitsValue digits < 10 ^ digits.length := by
  induction digits using List.reverseRecOn with
  | nil => decide
  | append_singleton digits c ih =>
    have value : digitsValue (digits ++ [c]) = digitsValue digits * 10 + (c.toNat - '0'.toNat) := by
      simp [digitsValue]
    have last : c.toNat - '0'.toNat < 10 := by
      have := h c (by simp)
      simp only [Char.isDigit, Bool.and_eq_true, decide_eq_true_eq] at this
      have upper : c.toNat ≤ '9'.toNat := this.2
      have : '9'.toNat = '0'.toNat + 9 := rfl
      omega
    have front := ih fun d hd => h d (List.mem_append_left _ hd)
    rw [value, List.length_append, List.length_singleton, Nat.pow_succ]
    omega

/-! ## Signed digits -/

theorem signed_natAbs (n : Int) : signed (decide (n < 0)) n.natAbs = n := by
  by_cases h : n < 0
  · simp only [signed, h, decide_true, if_true]
    omega
  · simp only [signed, h, decide_false, Bool.false_eq_true, if_false]
    omega

theorem signedDigits_of_neg {n : Int} (h : n < 0) :
    signedDigits n = '-' :: decimalDigits n.natAbs := if_pos h

theorem signedDigits_of_nonneg {n : Int} (h : ¬ n < 0) :
    signedDigits n = decimalDigits n.natAbs := if_neg h

theorem signedDigits_ne_nil (n : Int) : signedDigits n ≠ [] := by
  by_cases h : n < 0
  · simp [signedDigits_of_neg h]
  · simpa [signedDigits_of_nonneg h] using decimalDigits_ne_nil n.natAbs

theorem mem_signedDigits {n : Int} {c : Char} (h : c ∈ signedDigits n) :
    c = '-' ∨ c.isDigit = true := by
  by_cases sign : n < 0
  · rw [signedDigits_of_neg sign] at h
    exact (List.mem_cons.mp h).imp id isDigit_of_mem_decimalDigits
  · rw [signedDigits_of_nonneg sign] at h
    exact .inr (isDigit_of_mem_decimalDigits h)

/-! ## Hexadecimal digits -/

theorem hexValue?_hexDigit {d : Nat} (h : d < 16) : Json.State.hexValue? (hexDigit d) = some d := by
  have all : ∀ d < 16, Json.State.hexValue? (hexDigit d) = some d := by decide
  exact all d h

/-- The four digits of a code, one by one. -/
theorem hexDigits_four (n : Nat) :
    hexDigits 4 n = [hexDigit (n / 4096 % 16), hexDigit (n / 256 % 16), hexDigit (n / 16 % 16),
      hexDigit (n % 16)] := by
  simp [hexDigits, Nat.div_div_eq_div_mul]

end OwnerBuild.Text
