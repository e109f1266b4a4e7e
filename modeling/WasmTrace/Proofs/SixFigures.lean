import Mathlib.Data.Int.Log
import Mathlib.Tactic.Ring
import WasmTrace.Decimal.SixDigits
import WasmTrace.Proofs.NearestEven

/-!
# Six significant figures

A positive number is rounded to six significant figures at the place that its order of magnitude
leaves for the sixth one: `sixFigures`.  Rounding up may reach the next power of ten, and then the
figures are those of that power, one place further up.

A positional numeral is rounded a second time, from the exact number.  The main statement is
`Decimal.Magnitude.sixDigits_eq`: both times the figures are the same, so that the text depends on
the rounded number only.
-/

namespace WasmTrace

/-! ## Orders of magnitude -/

lemma Numeral.lt_pow_digitCount (n : ℕ) : n < 10 ^ digitCount n :=
  (Nat.length_toDigits_le_iff (by decide) Nat.length_toDigits_pos).mp le_rfl

lemma Numeral.pow_digitCount_le {n : ℕ} (hn : 0 < n) : 10 ^ (digitCount n - 1) ≤ n := by
  rcases Nat.eq_zero_or_pos (digitCount n - 1) with hzero | hpos
  · rw [hzero, pow_zero]
    exact hn
  · have hlength := (Nat.length_toDigits_le_iff (n := n) (by decide : 1 < 10) hpos).not
    refine not_lt.mp (hlength.mp ?_)
    change ¬digitCount n ≤ digitCount n - 1
    omega

/-- The order of magnitude of a number between two powers of ten. -/
lemma log_eq_of_le_of_lt {x : ℚ} {k : ℤ} (hle : (10 : ℚ) ^ k ≤ x) (hlt : x < (10 : ℚ) ^ (k + 1)) :
    Int.log 10 x = k := by
  have hx : 0 < x := lt_of_lt_of_le (zpow_pos (by norm_num) k) hle
  have hcast : ((10 : ℕ) : ℚ) = 10 := Nat.cast_ofNat
  have hlower : k ≤ Int.log 10 x := by
    rw [← Int.zpow_le_iff_le_log (by decide) hx, hcast]
    exact hle
  have hupper : Int.log 10 x < k + 1 := by
    rw [← Int.lt_zpow_iff_log_lt (by decide) hx, hcast]
    exact hlt
  omega

/-- A positive number is between two powers of ten. -/
lemma zpow_log_bounds {x : ℚ} (hx : 0 < x) :
    (10 : ℚ) ^ Int.log 10 x ≤ x ∧ x < (10 : ℚ) ^ (Int.log 10 x + 1) := by
  have hcast : ((10 : ℕ) : ℚ) = 10 := Nat.cast_ofNat
  rw [← hcast]
  exact ⟨Int.zpow_log_le_self (by decide) hx, Int.lt_zpow_succ_log_self (by decide) x⟩

/-- A power with an integer exponent, as a quotient of which one side is one. -/
lemma zpow_eq_div {b : ℚ} (hb : b ≠ 0) (q : ℤ) : b ^ q = b ^ q.toNat / b ^ (-q).toNat := by
  have hq : q = (q.toNat : ℤ) - ((-q).toNat : ℤ) := by omega
  conv_lhs => rw [hq]
  rw [zpow_sub₀ hb, zpow_natCast, zpow_natCast]

/-- A number with six significant figures: as many units of the place of the sixth figure as are
nearest. -/
def sixFigures (x : ℚ) : ℚ :=
  nearestEven (x * 10 ^ (5 - Int.log 10 x)) * 10 ^ (Int.log 10 x - 5)

namespace Decimal

namespace Magnitude

variable (v : Magnitude)

/-- The number that a quotient stands for. -/
def toRat : ℚ := v.num / v.den

lemma cast_num_pos : (0 : ℚ) < v.num := Nat.cast_pos.mpr v.num_pos

lemma cast_den_pos : (0 : ℚ) < v.den := Nat.cast_pos.mpr v.den_pos

lemma toRat_pos : 0 < v.toRat := div_pos v.cast_num_pos v.cast_den_pos

/-- The exponent of a number is its order of magnitude. -/
lemma exponent_eq_log : v.exponent = Int.log 10 v.toRat := by
  symm
  unfold exponent
  split
  · next hle =>
    -- the digits before the point
    have hquotient : 0 < v.num / v.den := Nat.div_pos hle v.den_pos
    have hcount : 1 ≤ Numeral.digitCount (v.num / v.den) := Nat.length_toDigits_pos
    have hlower := Numeral.pow_digitCount_le hquotient
    have hupper := Numeral.lt_pow_digitCount (v.num / v.den)
    rw [Nat.le_div_iff_mul_le v.den_pos] at hlower
    rw [Nat.div_lt_iff_lt_mul v.den_pos] at hupper
    apply log_eq_of_le_of_lt
    · rw [toRat, le_div_iff₀ v.cast_den_pos, ← Int.natCast_pred_of_pos hcount, zpow_natCast]
      exact_mod_cast hlower
    · rw [toRat, div_lt_iff₀ v.cast_den_pos, sub_add_cancel, zpow_natCast]
      exact_mod_cast hupper
  · next hlt =>
    -- the digits of the greatest integer below the inverse
    have hquotient : 0 < (v.den - 1) / v.num := Nat.div_pos (by omega) v.num_pos
    have hcount : 1 ≤ Numeral.digitCount ((v.den - 1) / v.num) := Nat.length_toDigits_pos
    have hlower := Numeral.pow_digitCount_le hquotient
    have hupper := Numeral.lt_pow_digitCount ((v.den - 1) / v.num)
    rw [Nat.le_div_iff_mul_le v.num_pos] at hlower
    rw [Nat.div_lt_iff_lt_mul v.num_pos] at hupper
    generalize Numeral.digitCount ((v.den - 1) / v.num) = count at hcount hlower hupper
    apply log_eq_of_le_of_lt
    · rw [toRat, le_div_iff₀ v.cast_den_pos, zpow_neg, zpow_natCast,
        inv_mul_le_iff₀ (pow_pos (by norm_num) _)]
      have hden : v.den ≤ 10 ^ count * v.num := by omega
      exact_mod_cast hden
    · have hexponent : -(count : ℤ) + 1 = -((count - 1 : ℕ) : ℤ) := by omega
      rw [toRat, div_lt_iff₀ v.cast_den_pos, hexponent, zpow_neg, zpow_natCast,
        lt_inv_mul_iff₀ (pow_pos (by norm_num) _)]
      have hnum : 10 ^ (count - 1) * v.num < v.den := by
        have hden := v.den_pos
        omega
      exact_mod_cast hnum

/-- Counting units of a decimal place rounds the number to that place. -/
lemma isNearestEven_scaled (places : ℤ) :
    IsNearestEven (v.toRat * 10 ^ places) (v.scaled places : ℕ) := by
  have hden : 0 < v.den * Nat.pow 10 (-places).toNat :=
    Nat.mul_pos v.den_pos (Nat.pow_pos (by decide))
  have hquotient : v.toRat * 10 ^ places =
      ((v.num * Nat.pow 10 places.toNat : ℕ) : ℚ) / (v.den * Nat.pow 10 (-places).toNat : ℕ) := by
    rw [zpow_eq_div (by norm_num), toRat, div_mul_div_comm, Nat.pow_eq, Nat.pow_eq]
    push_cast
    rfl
  rw [hquotient]
  exact isNearestEven_roundDiv _ hden

end Magnitude

namespace Scientific

/-- The number that the figures stand for, the sixth one at the place of the units of `digits`. -/
def toRat (s : Scientific) : ℚ := s.digits * 10 ^ (s.exponent - 5)

/-- There are six figures, and the first one is not zero. -/
structure IsSix (s : Scientific) : Prop where
  /-- There are not fewer. -/
  lower : 10 ^ 5 ≤ s.digits
  /-- There are not more. -/
  upper : s.digits < 10 ^ 6

variable {s t : Scientific}

/-- The exponent belongs to the first figure. -/
lemma IsSix.log_toRat (h : s.IsSix) : Int.log 10 s.toRat = s.exponent := by
  have hpos : (0 : ℚ) < 10 ^ (s.exponent - 5) := zpow_pos (by norm_num) _
  have hlower : (10 : ℚ) ^ 5 ≤ s.digits := by exact_mod_cast h.lower
  have hupper : (s.digits : ℚ) < 10 ^ 6 := by exact_mod_cast h.upper
  apply log_eq_of_le_of_lt
  · calc (10 : ℚ) ^ s.exponent = 10 ^ (5 : ℕ) * 10 ^ (s.exponent - 5) := by
          rw [← zpow_natCast, ← zpow_add₀ (by norm_num)]
          congr 1
          omega
      _ ≤ s.toRat := mul_le_mul_of_nonneg_right hlower hpos.le
  · calc s.toRat < 10 ^ (6 : ℕ) * 10 ^ (s.exponent - 5) := mul_lt_mul_of_pos_right hupper hpos
      _ = 10 ^ (s.exponent + 1) := by
          rw [← zpow_natCast, ← zpow_add₀ (by norm_num)]
          congr 1
          omega

/-- A number has six figures in one way. -/
lemma IsSix.toRat_inj (hs : s.IsSix) (ht : t.IsSix) (h : s.toRat = t.toRat) : s = t := by
  have hexponent : s.exponent = t.exponent := by rw [← hs.log_toRat, ← ht.log_toRat, h]
  have hdigits : (s.digits : ℚ) = t.digits := by
    rw [toRat, toRat, hexponent] at h
    exact mul_right_cancel₀ (zpow_pos (by norm_num) _).ne' h
  obtain ⟨m, e⟩ := s
  obtain ⟨n, f⟩ := t
  exact congrArg₂ _ (Nat.cast_injective hdigits) hexponent

end Scientific

namespace Magnitude

variable (v : Magnitude)

/-- The six figures before the first one is looked at: there may be a seventh one, after ten. -/
lemma scaled_bounds :
    10 ^ 5 ≤ v.scaled (5 - v.exponent) ∧ v.scaled (5 - v.exponent) ≤ 10 ^ 6 := by
  have hnearest := v.isNearestEven_scaled (5 - v.exponent)
  have hpos : (0 : ℚ) < 10 ^ (5 - v.exponent) := zpow_pos (by norm_num) _
  obtain ⟨hlower, hupper⟩ := zpow_log_bounds v.toRat_pos
  rw [← exponent_eq_log] at hlower hupper
  constructor
  · have hscaled : ((10 ^ 5 : ℤ) : ℚ) ≤ v.toRat * 10 ^ (5 - v.exponent) := by
      calc ((10 ^ 5 : ℤ) : ℚ) = 10 ^ v.exponent * 10 ^ (5 - v.exponent) := by
            rw [← zpow_add₀ (by norm_num), add_sub_cancel]
            norm_num
        _ ≤ v.toRat * 10 ^ (5 - v.exponent) := mul_le_mul_of_nonneg_right hlower hpos.le
    exact_mod_cast hnearest.le_of_le hscaled
  · have hscaled : v.toRat * 10 ^ (5 - v.exponent) ≤ ((10 ^ 6 : ℤ) : ℚ) := by
      calc v.toRat * 10 ^ (5 - v.exponent)
          ≤ 10 ^ (v.exponent + 1) * 10 ^ (5 - v.exponent) :=
            mul_le_mul_of_nonneg_right hupper.le hpos.le
        _ = ((10 ^ 6 : ℤ) : ℚ) := by
            rw [← zpow_add₀ (by norm_num), show v.exponent + 1 + (5 - v.exponent) = 6 by omega]
            norm_num
    exact_mod_cast hnearest.ge_of_ge hscaled

/-- The number in scientific notation: a seventh figure moves the exponent. -/
lemma toScientific_eq : v.toScientific fractionPlaces =
    if v.scaled (5 - v.exponent) = 10 ^ 6 then ⟨10 ^ 5, v.exponent + 1⟩
    else ⟨v.scaled (5 - v.exponent), v.exponent⟩ := rfl

/-- Rounding gives six figures. -/
lemma isSix_toScientific : (v.toScientific fractionPlaces).IsSix := by
  obtain ⟨hlower, hupper⟩ := v.scaled_bounds
  rw [toScientific_eq]
  split
  · exact ⟨le_rfl, (by decide : 10 ^ 5 < 10 ^ 6)⟩
  · next hcarry => exact ⟨hlower, lt_of_le_of_ne hupper hcarry⟩

/-- The figures stand for the rounded number. -/
lemma toRat_toScientific : (v.toScientific fractionPlaces).toRat = sixFigures v.toRat := by
  have hnearest := (v.isNearestEven_scaled (5 - v.exponent)).eq_nearestEven
  rw [sixFigures, ← exponent_eq_log, ← hnearest, toScientific_eq]
  split
  · next hcarry =>
    have hpow : (10 : ℚ) ^ (v.exponent + 1 - 5) = 10 ^ (v.exponent - 5) * 10 := by
      rw [← zpow_add_one₀ (by norm_num)]
      congr 1
      omega
    rw [hcarry, Scientific.toRat, hpow, Int.cast_natCast, Nat.cast_pow, Nat.cast_pow]
    ring
  · rfl

lemma digits_toScientific_pos : 0 < (v.toScientific fractionPlaces).digits :=
  lt_of_lt_of_le (by decide) v.isSix_toScientific.lower

lemma sixFigures_pos : 0 < sixFigures v.toRat := by
  rw [← v.toRat_toScientific, Scientific.toRat]
  exact mul_pos (Nat.cast_pos.mpr v.digits_toScientific_pos) (zpow_pos (by norm_num) _)

/-- A number just below a power of ten is also rounded to it in units ten times as large. -/
lemma scaled_of_carry (h : v.scaled (5 - v.exponent) = 10 ^ 6) :
    v.scaled (5 - (v.exponent + 1)) = 10 ^ 5 := by
  have hfirst := (v.isNearestEven_scaled (5 - v.exponent)).bounds.1
  have hupper := (zpow_log_bounds v.toRat_pos).2
  rw [← exponent_eq_log] at hupper
  rw [h] at hfirst
  have hunits : v.toRat * 10 ^ (5 - v.exponent) =
      v.toRat * 10 ^ (5 - (v.exponent + 1)) * 10 := by
    rw [mul_assoc, ← zpow_add_one₀ (by norm_num)]
    congr 2
    omega
  have hbelow : v.toRat * 10 ^ (5 - (v.exponent + 1)) < 10 ^ 5 := by
    calc v.toRat * 10 ^ (5 - (v.exponent + 1))
        < 10 ^ (v.exponent + 1) * 10 ^ (5 - (v.exponent + 1)) :=
          mul_lt_mul_of_pos_right hupper (zpow_pos (by norm_num) _)
      _ = 10 ^ 5 := by
          rw [← zpow_add₀ (by norm_num), add_sub_cancel]
          norm_num
  -- half a unit below the power is a twentieth of a unit that is ten times as large
  have hnearest : IsNearestEven (v.toRat * 10 ^ (5 - (v.exponent + 1))) ((10 ^ 5 : ℕ) : ℤ) := by
    refine .of_abs_lt ?_
    push_cast at hfirst ⊢
    rw [abs_lt]
    constructor <;> linarith
  exact_mod_cast (v.isNearestEven_scaled _).unique hnearest

/-- The second pass: at the place of the sixth figure, the number has the same figures again. -/
lemma scaled_toScientific :
    v.scaled (5 - (v.toScientific fractionPlaces).exponent) =
      (v.toScientific fractionPlaces).digits := by
  rw [toScientific_eq]
  split
  · next hcarry => exact v.scaled_of_carry hcarry
  · rfl

end Magnitude

/-- The text of six figures. -/
def Scientific.chars (s : Scientific) : List Char :=
  if leastPositional ≤ s.exponent ∧ s.exponent < leastExplicit then
    (Positional.ofUnits (fractionPlaces - s.exponent).toNat s.digits).trimmed.chars
  else (Positional.ofUnits fractionPlaces s.digits).trimmed.chars ++ exponentChars s.exponent

/-- **The text of a number depends on the rounded number only**: both roundings give the same
figures, also where the first one reached a power of ten. -/
theorem Magnitude.sixDigits_eq (v : Magnitude) :
    v.sixDigits = (v.toScientific fractionPlaces).chars := by
  unfold sixDigits Scientific.chars
  dsimp only
  split
  · next hpositional =>
    obtain ⟨-, hbelow⟩ := hpositional
    have hplaces : ((fractionPlaces - (v.toScientific fractionPlaces).exponent).toNat : ℤ) =
        5 - (v.toScientific fractionPlaces).exponent := by
      rw [leastExplicit] at hbelow
      refine Int.toNat_of_nonneg ?_
      change 0 ≤ 5 - (v.toScientific fractionPlaces).exponent
      omega
    rw [hplaces, v.scaled_toScientific]
  · rfl

end Decimal

end WasmTrace
