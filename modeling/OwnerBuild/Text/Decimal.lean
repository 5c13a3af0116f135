/-
# OwnerBuild.Text.Decimal -- whole numbers in decimal digits

A natural number is written with its decimal digits, the most significant first
and none superfluous; `digitsValue` is the number that digits write, and reading
what was written gives the number back.
-/

namespace OwnerBuild.Text

/-- The digit of a number below ten. -/
def decimalDigit (n : Nat) : Char := Char.ofNat (0x30 + n)

/-- The decimal digits of a number. -/
def decimalDigits (n : Nat) : List Char :=
  if n < 10 then [decimalDigit n] else decimalDigits (n / 10) ++ [decimalDigit (n % 10)]

/-- The number that decimal digits write. -/
def digitsValue (digits : List Char) : Nat :=
  digits.foldl (fun n c => n * 10 + (c.toNat - '0'.toNat)) 0

/-- A natural number with a sign in front. -/
def signed (negative : Bool) (n : Nat) : Int := if negative then -(n : Int) else n

/-- The digits of a whole number, behind a minus sign if it is less than zero. -/
def signedDigits (n : Int) : List Char :=
  if n < 0 then '-' :: decimalDigits n.natAbs else decimalDigits n.natAbs

theorem decimalDigit_toNat {n : Nat} (h : n < 10) : (decimalDigit n).toNat = 0x30 + n := by
  have : ∀ n < 10, (decimalDigit n).toNat = 0x30 + n := by decide
  exact this n h

theorem digitsValue_append_digit (digits : List Char) {d : Nat} (h : d < 10) :
    digitsValue (digits ++ [decimalDigit d]) = digitsValue digits * 10 + d := by
  simp [digitsValue, decimalDigit_toNat h]

/-- The digits of a number write that number. -/
@[simp] theorem digitsValue_decimalDigits (n : Nat) : digitsValue (decimalDigits n) = n := by
  induction n using Nat.strongRecOn with
  | ind n ih =>
    unfold decimalDigits
    split
    · next h => simp [digitsValue, decimalDigit_toNat h]
    · next h =>
      rw [digitsValue_append_digit _ (Nat.mod_lt _ (by decide)), ih (n / 10) (by omega)]
      omega

end OwnerBuild.Text
