import WasmTrace.Proofs.FloatingText

/-!
# The two passes of a positional numeral

A number that is written positionally is rounded twice.  The first pass rounds it to one digit in
front of the point and five after it, and gives the exponent; the second one rounds the exact number
again, at the place that the exponent leaves for the sixth figure.  The place of the second pass is
that of the first one, or the next one if the first pass reached a power of ten.

The main statement is `Binary64.second_pass_agrees`: the figures of both passes are the same.
-/

namespace WasmTrace

namespace Decimal

namespace Positional

/-- The digits of a numeral, those in front of the point first. -/
def digits (p : Positional) : List Char := p.whole ++ p.fraction

/-- The digits of a numeral from the first one on that is not zero. -/
def significant (p : Positional) : List Char := p.digits.dropWhile (· == '0')

/-- Counted units have the significant digits of their number. -/
lemma significant_ofUnits (places : ℕ) {n : ℕ} (hn : 0 < n) :
    (ofUnits places n).significant = Nat.toDigits 10 n := by
  rw [significant, digits, dropWhile_ofUnits, if_neg hn.ne']

end Positional

namespace Magnitude

open Numeral (readPositional?)

/-- The numeral of a number in fixed notation, rounded to so many places after the point. -/
def fixed (v : Magnitude) (places : ℕ) : Positional := .ofUnits places (v.scaled places)

/-- The mantissa of a number in scientific notation, rounded to five places after the point. -/
def mantissa (v : Magnitude) : Positional :=
  .ofUnits fractionPlaces (v.toScientific fractionPlaces).digits

/-- The exponent of a number in scientific notation, after rounding. -/
def roundedExponent (v : Magnitude) : ℤ := (v.toScientific fractionPlaces).exponent

variable (v : Magnitude)

/-! ## The first pass -/

/-- There is one digit in front of the point of a mantissa, and it is not zero. -/
lemma whole_mantissa : ∃ lead : Char, v.mantissa.whole = [lead] ∧ lead ≠ '0' := by
  obtain ⟨hlower, hupper⟩ := v.isSix_toScientific
  have hlead : (v.toScientific fractionPlaces).digits / 10 ^ 5 < 10 := by omega
  refine ⟨((v.toScientific fractionPlaces).digits / 10 ^ 5).digitChar, ?_, ?_⟩
  · exact Nat.toDigits_of_lt_base hlead
  · rw [ne_eq, Nat.digitChar_eq_zero]
    omega

lemma length_fraction_mantissa : v.mantissa.fraction.length = 5 := Numeral.length_lastDigits _ _

/-- A mantissa has no zeros in front. -/
lemma significant_mantissa : v.mantissa.significant = v.mantissa.digits := by
  obtain ⟨lead, hwhole, hlead⟩ := v.whole_mantissa
  rw [Positional.significant, Positional.digits, hwhole, List.singleton_append]
  exact List.dropWhile_cons_of_neg fun hzero => hlead (eq_of_beq hzero)

lemma length_digits_mantissa : v.mantissa.digits.length = 6 := by
  obtain ⟨lead, hwhole, -⟩ := v.whole_mantissa
  rw [Positional.digits, List.length_append, hwhole, length_fraction_mantissa,
    List.length_singleton]

/-- The mantissa at its exponent is the number with six figures. -/
lemma mantissa_mul_zpow : v.mantissa.toRat * 10 ^ v.roundedExponent = sixFigures v.toRat := by
  rw [mantissa, Positional.toRat_ofUnits, ← v.toRat_toScientific, Scientific.toRat, roundedExponent,
    zpow_sub₀ (by norm_num), fractionPlaces, div_mul_eq_mul_div, mul_div_assoc]
  rfl

/-- A number below the power of its exponent after rounding was rounded up to that power. -/
lemma toScientific_of_lt (h : v.toRat < 10 ^ v.roundedExponent) :
    v.toScientific fractionPlaces = ⟨10 ^ 5, v.exponent + 1⟩ := by
  have hlower := (zpow_log_bounds v.toRat_pos).1
  rw [← exponent_eq_log] at hlower
  have hne : v.roundedExponent ≠ v.exponent := by
    intro heq
    rw [heq] at h
    exact absurd hlower (not_le.mpr h)
  rw [roundedExponent] at hne
  rw [toScientific_eq] at hne ⊢
  split
  · rfl
  · next hcarry =>
    rw [if_neg hcarry] at hne
    exact absurd rfl hne

/-! ## The second pass -/

/-- A numeral in fixed notation denotes the units that were counted. -/
lemma readPositional?_fixed (places : ℕ) : readPositional? (v.fixed places).chars =
    some (((v.scaled places : ℤ) : ℚ) / 10 ^ places) := by
  rw [fixed, (Positional.wf_ofUnits _ _).readPositional?_chars, Positional.toRat_ofUnits,
    Int.cast_natCast]

variable {v}

/-- The places that the exponent leaves for the sixth figure. -/
lemma natCast_places (h : v.roundedExponent < 6) :
    ((5 - v.roundedExponent).toNat : ℤ) = 5 - v.roundedExponent := Int.toNat_of_nonneg (by omega)

/-- The second pass counts as many units as the first one. -/
lemma fixed_eq_ofUnits (h : v.roundedExponent < 6) :
    v.fixed (5 - v.roundedExponent).toNat =
      .ofUnits (5 - v.roundedExponent).toNat (v.toScientific fractionPlaces).digits := by
  rw [fixed, natCast_places h]
  exact congrArg _ v.scaled_toScientific

/-- **The significant digits of the second pass are those of the first one.** -/
lemma significant_fixed (h : v.roundedExponent < 6) :
    (v.fixed (5 - v.roundedExponent).toNat).significant = v.mantissa.digits := by
  have hpos := v.digits_toScientific_pos
  rw [fixed_eq_ofUnits h, Positional.significant_ofUnits _ hpos, ← v.significant_mantissa, mantissa,
    Positional.significant_ofUnits _ hpos]

/-- The numeral of the second pass denotes the number with six figures. -/
lemma readPositional?_fixed_eq (h : v.roundedExponent < 6) :
    readPositional? (v.fixed (5 - v.roundedExponent).toNat).chars =
      some (sixFigures v.toRat) := by
  rw [readPositional?_fixed, ← v.toRat_toScientific, Scientific.toRat, ← zpow_natCast,
    natCast_places h, div_eq_mul_inv, ← zpow_neg, neg_sub, Int.cast_natCast, roundedExponent,
    v.scaled_toScientific]

/-- The text of a number between the bounds is the numeral of the second pass, trimmed. -/
lemma sixDigits_eq_fixed (hleast : -4 ≤ v.roundedExponent) (hgreatest : v.roundedExponent < 6) :
    v.sixDigits = (v.fixed (5 - v.roundedExponent).toNat).trimmed.chars :=
  if_pos ⟨hleast, hgreatest⟩

/-- A number that the first pass rounded up to a power of ten has the digits of that power. -/
lemma digits_mantissa_of_lt (h : v.toRat < 10 ^ v.roundedExponent) :
    v.mantissa.digits = "100000".toList := by
  rw [← v.significant_mantissa, mantissa,
    Positional.significant_ofUnits _ v.digits_toScientific_pos, v.toScientific_of_lt h]
  change Nat.toDigits 10 (10 ^ 5) = _
  decide

/-- It is rounded to that power. -/
lemma sixFigures_of_lt (h : v.toRat < 10 ^ v.roundedExponent) :
    sixFigures v.toRat = 10 ^ v.roundedExponent := by
  rw [← v.toRat_toScientific, roundedExponent, v.toScientific_of_lt h, Scientific.toRat]
  dsimp only
  rw [Nat.cast_pow, Nat.cast_ofNat, ← zpow_natCast, ← zpow_add₀ (by norm_num)]
  congr 1
  omega

/-! ## Both passes -/

/-- What the first pass gives: one digit in front of the point, other than zero, and five after it.
At the exponent they denote the number with six figures. -/
structure FirstPass (v : Magnitude) : Prop where
  /-- One digit stands in front of the point. -/
  whole : v.mantissa.whole.length = 1
  /-- Five digits stand after it. -/
  fraction : v.mantissa.fraction.length = 5
  /-- The first digit is not zero. -/
  lead : v.mantissa.digits.head? ≠ some '0'
  /-- The mantissa at its exponent denotes the rounded number. -/
  denotes : v.mantissa.toRat * 10 ^ v.roundedExponent = sixFigures v.toRat

/-- What the second pass gives at so many places: the exact number in units of the last place,
rounded to the nearest one, with the figures of the first pass. -/
structure SecondPass (v : Magnitude) (places : ℕ) : Prop where
  /-- All the places are written. -/
  fraction : (v.fixed places).fraction.length = places
  /-- The exact number is rounded, not the result of the first pass. -/
  nearest : ∃ n : ℤ, IsNearestEven (v.toRat * 10 ^ places) n ∧
    readPositional? (v.fixed places).chars = some ((n : ℚ) / 10 ^ places)
  /-- There are six significant digits. -/
  six : (v.fixed places).significant.length = 6
  /-- They are the digits of the mantissa. -/
  figures : (v.fixed places).significant = v.mantissa.digits
  /-- The numeral denotes the rounded number. -/
  denotes : readPositional? (v.fixed places).chars = some (sixFigures v.toRat)

/-- What the second pass gives if the first one reached the next power of ten. -/
structure Carried (v : Magnitude) (places : ℕ) : Prop where
  /-- The exponent of the exact number is one less than that of the first pass. -/
  exponent : v.exponent = v.roundedExponent - 1
  /-- The figures are a one and zeros. -/
  figures : (v.fixed places).significant = "100000".toList
  /-- The numeral denotes the power of ten. -/
  denotes : readPositional? (v.fixed places).chars = some ((10 : ℚ) ^ v.roundedExponent)

lemma firstPass (v : Magnitude) : v.FirstPass := by
  obtain ⟨lead, hwhole, hlead⟩ := v.whole_mantissa
  refine ⟨?_, v.length_fraction_mantissa, ?_, v.mantissa_mul_zpow⟩
  · rw [hwhole, List.length_singleton]
  · rw [Positional.digits, hwhole, List.singleton_append, List.head?_cons, Option.some_inj.ne]
    exact hlead

lemma secondPass (h : v.roundedExponent < 6) : v.SecondPass (5 - v.roundedExponent).toNat := by
  have hfigures := significant_fixed h
  refine ⟨Numeral.length_lastDigits _ _, ⟨_, ?_, v.readPositional?_fixed _⟩, ?_, hfigures,
    readPositional?_fixed_eq h⟩
  · rw [← zpow_natCast]
    exact v.isNearestEven_scaled _
  · rw [hfigures, v.length_digits_mantissa]

lemma carried (h : v.roundedExponent < 6) (hcarry : v.toRat < 10 ^ v.roundedExponent) :
    v.Carried (5 - v.roundedExponent).toNat := by
  refine ⟨?_, ?_, ?_⟩
  · rw [roundedExponent, v.toScientific_of_lt hcarry, add_sub_cancel_right]
  · rw [significant_fixed h, digits_mantissa_of_lt hcarry]
  · rw [readPositional?_fixed_eq h, sixFigures_of_lt hcarry]

end Magnitude

end Decimal

namespace Binary64

open Decimal (Magnitude)

/-- **Both passes give the same figures.**  The first pass writes a finite number other than zero
with one digit in front of the point and five after it, rounded to six figures.  If its exponent is
between `-4` and `5`, then the second pass counts the exact number in units of the last place that
the exponent leaves, rounded to the nearest one; its significant digits are six, those of the first
pass, and they denote the same number.  In particular, if the first pass rounded up to a power of
ten, then so does the second one, whose units are ten times as large as those of the exact number's
own exponent. -/
theorem second_pass_agrees (bits : UInt64) (x : ℚ) (hx : number? bits = some x) (hne : x ≠ 0) :
    ∃ v : Magnitude, value bits = .finite v ∧ v.toRat = |x| ∧
      v.exponent = Int.log 10 |x| ∧ v.FirstPass ∧
      (-4 ≤ v.roundedExponent → v.roundedExponent < 6 →
        ∃ places : ℕ, (places : ℤ) = 5 - v.roundedExponent ∧
          (text bits).toList =
            (if isNegative bits then ['-'] else []) ++ (v.fixed places).trimmed.chars ∧
          v.SecondPass places ∧
          (|x| < 10 ^ v.roundedExponent → v.Carried places)) := by
  obtain ⟨v, hvalue, rfl⟩ := exists_finite hx hne
  rw [abs_sign_mul bits v.toRat_pos, toList_text, hvalue]
  refine ⟨v, rfl, rfl, v.exponent_eq_log, v.firstPass, fun hleast hgreatest => ?_⟩
  exact ⟨(5 - v.roundedExponent).toNat, Magnitude.natCast_places hgreatest,
    congrArg _ (Magnitude.sixDigits_eq_fixed hleast hgreatest), Magnitude.secondPass hgreatest,
    Magnitude.carried hgreatest⟩

/-- A thirty-second below a hundred thousand there are six figures only in units of a tenth, and the
number is rounded up to the power of ten.  The second pass counts whole units. -/
theorem carry_below_hundred_thousand :
    number? 0xC0F869FF80000000 = some (-(3199999 / 32)) ∧ (-(3199999 / 32) : ℚ) ≠ 0 ∧
      ∃ v : Magnitude, value 0xC0F869FF80000000 = .finite v ∧ v.exponent = 4 ∧
        v.roundedExponent = 5 ∧ (v.fixed 0).significant = "100000".toList ∧
        (text 0xC0F869FF80000000).toList = "-100000".toList := by
  have hnumber : number? 0xC0F869FF80000000 = some (-(3199999 / 32)) := by
    have hsign : isNegative 0xC0F869FF80000000 = true := by decide
    have hexponent : exponentField 0xC0F869FF80000000 = 1039 := by decide
    have hfraction : fractionField 0xC0F869FF80000000 = 2368345898745856 := by decide
    rw [number?, sign, hsign, hexponent, hfraction]
    norm_num
  have hne : (-(3199999 / 32) : ℚ) ≠ 0 := by norm_num
  refine ⟨hnumber, hne, ?_⟩
  obtain ⟨v, hvalue, habs, -, -, hsecond⟩ := second_pass_agrees _ _ hnumber hne
  rw [abs_neg, abs_of_pos (by norm_num : (0 : ℚ) < 3199999 / 32)] at habs hsecond
  have hfinite : value 0xC0F869FF80000000 =
      .finite (.ofBinary ((1 <<< 52) + 2368345898745856) (-36) (by decide)) := by rfl
  have hexponent : v.roundedExponent = 5 := by
    obtain rfl := Value.finite.inj (hvalue.symm.trans hfinite)
    decide +kernel
  rw [hexponent] at hsecond
  obtain ⟨places, hplaces, -, -, hcarry⟩ := hsecond (by decide) (by decide)
  obtain rfl : places = 0 := by omega
  have hcarried := hcarry (by norm_num)
  refine ⟨v, hvalue, hcarried.exponent.trans ?_, hexponent, hcarried.figures, ?_⟩
  · rw [hexponent]
    decide
  · decide +kernel

end Binary64

end WasmTrace
