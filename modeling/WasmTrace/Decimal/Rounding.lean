import WasmTrace.Text

/-!
# Rounding a positive rational to decimal digits

Everything here is exact arithmetic on natural numbers.  A `Magnitude` is a positive quotient;
`Magnitude.exponent` is its order of magnitude, `Magnitude.scaled` counts units of a decimal
place, and `Magnitude.toScientific` rounds to a number of significant digits.  One division,
`roundDiv`, does all the rounding: to the nearest integer, a half to the even neighbour.

The main statements are `two_mul_roundDiv_le` and `le_two_mul_roundDiv`: the rounded quotient is
within half a unit of the exact one.
-/

namespace WasmTrace

namespace Decimal

/-- The quotient `num / den` rounded to the nearest natural number; a half goes to the even
neighbour. -/
def roundDiv (num den : Nat) : Nat :=
  let quotient := num / den
  let rest := num % den
  if 2 * rest < den then quotient
  else if den < 2 * rest then quotient + 1
  else quotient + quotient % 2

/-- The rounded quotient exceeds the exact one by at most half a unit. -/
theorem two_mul_roundDiv_le (num den : Nat) :
    2 * (den * roundDiv num den) ≤ 2 * num + den := by
  have h := Nat.div_add_mod num den
  unfold roundDiv
  dsimp only
  split
  · omega
  · split
    · rw [Nat.mul_add, Nat.mul_one]
      omega
    · rcases Nat.mod_two_eq_zero_or_one (num / den) with hq | hq <;>
        rw [hq, Nat.mul_add] <;> omega

/-- The exact quotient exceeds the rounded one by at most half a unit. -/
theorem le_two_mul_roundDiv {den : Nat} (num : Nat) (hden : 0 < den) :
    2 * num ≤ 2 * (den * roundDiv num den) + den := by
  have h := Nat.div_add_mod num den
  have hlt := Nat.mod_lt num hden
  unfold roundDiv
  dsimp only
  split
  · omega
  · split
    · rw [Nat.mul_add, Nat.mul_one]
      omega
    · rcases Nat.mod_two_eq_zero_or_one (num / den) with hq | hq <;>
        rw [hq, Nat.mul_add] <;> omega

/-- A positive rational number, as a quotient of positive natural numbers. -/
structure Magnitude where
  /-- The numerator. -/
  num : Nat
  /-- The denominator. -/
  den : Nat
  /-- The number is positive. -/
  num_pos : 0 < num
  /-- The quotient is defined. -/
  den_pos : 0 < den

/-- A number rounded to some significant digits: `digits` read as an integer, its first digit
standing at the place of `10 ^ exponent`. -/
structure Scientific where
  /-- The significant digits, as one integer. -/
  digits : Nat
  /-- The decimal exponent of the first digit. -/
  exponent : Int
  deriving DecidableEq, Repr

namespace Magnitude

/-- The number `m * 2 ^ q`, for a positive `m`. -/
def ofBinary (m : Nat) (q : Int) (hm : 0 < m) : Magnitude where
  num := m <<< q.toNat
  den := 1 <<< (-q).toNat
  num_pos := by
    rw [Nat.shiftLeft_eq]
    exact Nat.mul_pos hm (Nat.two_pow_pos _)
  den_pos := by
    rw [Nat.shiftLeft_eq]
    exact Nat.mul_pos Nat.one_pos (Nat.two_pow_pos _)

/-- The greatest integer `k` such that `10 ^ k` does not exceed the number.

At least one, a number has one digit more than its exponent before the point.  Below one, the
exponent `-j` has the least `j` with `den ≤ num * 10 ^ j`, and `j` counts the digits of the
greatest integer below `den / num`. -/
def exponent (v : Magnitude) : Int :=
  if v.den ≤ v.num then (Numeral.digitCount (v.num / v.den) : Int) - 1
  else -(Numeral.digitCount ((v.den - 1) / v.num) : Int)

/-- The number counted in units of `10 ^ (-places)` and rounded to an integer. -/
def scaled (v : Magnitude) (places : Int) : Nat :=
  roundDiv (v.num * Nat.pow 10 places.toNat) (v.den * Nat.pow 10 (-places).toNat)

/-- The number rounded to one digit before the point and `places` after it.  Rounding up to the
next power of ten moves the exponent, so that the first digit is never zero. -/
def toScientific (v : Magnitude) (places : Nat) : Scientific :=
  let digits := v.scaled (places - v.exponent)
  if digits = Nat.pow 10 (places + 1) then ⟨Nat.pow 10 places, v.exponent + 1⟩
  else ⟨digits, v.exponent⟩

end Magnitude

end Decimal

end WasmTrace
