import WasmTrace.Decimal.Rounding

/-!
# Six significant digits

A number is shown with at most six significant digits.  Its exponent after rounding decides the
notation: from `-4` to `5` the number is written positionally, otherwise with one digit before
the point and an explicit exponent of at least two digits.  Zeros at the end of a fraction are
dropped, and so is a point that nothing follows.
-/

namespace WasmTrace

namespace Decimal

/-- A positional numeral: the digits on both sides of the point. -/
structure Positional where
  /-- The digits before the point. -/
  whole : List Char
  /-- The digits after the point. -/
  fraction : List Char
  deriving DecidableEq, Repr

namespace Positional

/-- The numeral of `n` units of `10 ^ (-places)`, with exactly `places` digits after the
point. -/
def ofUnits (places n : Nat) : Positional :=
  ⟨Nat.toDigits 10 (n / Nat.pow 10 places), Numeral.lastDigits places n⟩

/-- The numeral without the zeros that end its fraction. -/
def trimmed (p : Positional) : Positional :=
  { p with fraction := (p.fraction.reverse.dropWhile (· == '0')).reverse }

/-- The characters of the numeral; a point is written only in front of a fraction. -/
def chars (p : Positional) : List Char :=
  if p.fraction.isEmpty then p.whole else p.whole ++ '.' :: p.fraction

end Positional

/-- The number of digits after the first one. -/
def fractionPlaces : Nat := 5

/-- Numbers with an exponent from this one on may be written positionally. -/
def leastPositional : Int := -4

/-- Numbers with an exponent from this one on are written with an explicit exponent. -/
def leastExplicit : Int := 6

/-- The least number of digits of an explicit exponent. -/
def exponentWidth : Nat := 2

/-- An explicit exponent: its sign, always, and at least two digits. -/
def exponentChars (e : Int) : List Char :=
  'e' :: (if e < 0 then '-' else '+') :: (Nat.toDigits 10 e.natAbs).leftpad exponentWidth '0'

/-- A positive number with six significant digits.

The exponent is that of the rounded number, so a number just below a power of ten is written
like that power.  A positional number is rounded once more from its exact value, at the place
that the exponent leaves for the sixth digit. -/
def Magnitude.sixDigits (v : Magnitude) : List Char :=
  let s := v.toScientific fractionPlaces
  if leastPositional ≤ s.exponent ∧ s.exponent < leastExplicit then
    let places := (fractionPlaces - s.exponent).toNat
    (Positional.ofUnits places (v.scaled places)).trimmed.chars
  else
    (Positional.ofUnits fractionPlaces s.digits).trimmed.chars ++ exponentChars s.exponent

end Decimal

end WasmTrace
