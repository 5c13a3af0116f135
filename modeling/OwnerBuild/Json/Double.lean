/-
# OwnerBuild.Json.Double -- the whole numbers among double-precision values

A decimal literal stands for the double nearest to it, a tie going to the even
significand. `wholeDouble?` tells which whole number that double is, if it is
one and lies strictly inside ±2^63. The double is found in exact arithmetic: the
literal is a quotient of naturals, `binaryScale` finds the power of two at which
the quotient has 53 significant bits (or the smallest one that doubles have), and
`roundQuotient` rounds it there.

Literals too large to matter are told apart by their exponent and those that
round to zero by a bound on their size, so that no power of ten is computed that
is not about as long as the literal itself.
-/

namespace OwnerBuild.Json

/-- The natural number nearest to a quotient, a tie going to the even one. -/
def roundQuotient (num den : Nat) : Nat :=
  let q := num / den
  let r := num % den
  if 2 * r < den then q
  else if den < 2 * r then q + 1
  else if q % 2 = 0 then q else q + 1

/-- A quotient of naturals over a power of two, as a quotient of naturals. -/
def scaleQuotient (num den : Nat) (exponent : Int) : Nat × Nat :=
  if exponent < 0 then (num * Nat.pow 2 (-exponent).toNat, den)
  else (num, den * Nat.pow 2 exponent.toNat)

/-- The exponent of the last place that a double near `num / den` has. -/
def binaryScale (num den : Nat) : Int :=
  let guess : Int := (num.log2 : Int) - (den.log2 : Int) - 53
  let scaled := scaleQuotient num den guess
  max (if scaled.1 ≥ scaled.2 * Nat.pow 2 53 then guess + 1 else guess) (-1074)

/-- The whole number that the double nearest to `num / den` is, if it is one. -/
def nearestWhole? (num den : Nat) : Option Nat :=
  let exponent := binaryScale num den
  let scaled := scaleQuotient num den exponent
  let significand := roundQuotient scaled.1 scaled.2
  if 0 ≤ exponent then some (significand * Nat.pow 2 exponent.toNat)
  else
    let unit := Nat.pow 2 (-exponent).toNat
    if significand % unit = 0 then some (significand / unit) else none

/-- The whole number that the double nearest to `m · 10^e` is, if it is one and
is less than 2^63. -/
def wholeMagnitude? (m : Nat) (e : Int) : Option Nat :=
  if m = 0 then some 0
  else if 20 ≤ e then none
  else if 0 ≤ e then (nearestWhole? (m * Nat.pow 10 e.toNat) 1).filter (· < Nat.pow 2 63)
  else if 3 * (-e).toNat > m.log2 + 1100 then some 0
  else (nearestWhole? m (Nat.pow 10 (-e).toNat)).filter (· < Nat.pow 2 63)

/-- The whole number that the double nearest to `m · 10^e` is. -/
def wholeDouble? (m e : Int) : Option Int :=
  (wholeMagnitude? m.natAbs e).map fun n => if m < 0 then -(n : Int) else n

example : wholeDouble? 10 (-1) = some 1 := by decide +kernel
example : wholeDouble? 15 (-1) = none := by decide +kernel
example : wholeDouble? 9223372036854775807 0 = none := by decide +kernel
example : wholeDouble? (-9223372036854774784) 0 = some (-9223372036854774784) := by decide +kernel
example : wholeDouble? 100000000000000000001 (-20) = some 1 := by decide +kernel
example : wholeDouble? 1 (-400) = some 0 := by decide +kernel

end OwnerBuild.Json
