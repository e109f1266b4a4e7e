import Mathlib.Algebra.Order.Field.Rat
import Mathlib.Data.Rat.Floor
import Mathlib.Tactic.FieldSimp
import Mathlib.Tactic.Lemma
import Mathlib.Tactic.Linarith
import WasmTrace.Decimal.Rounding

/-!
# Rounding to the nearest integer

A rational is rounded to the nearest integer, and a half to the even neighbour.  `IsNearestEven`
says so without saying how, `nearestEven` is the integer, and `IsNearestEven.unique` shows that
there is no other one.

The main statement is `Decimal.isNearestEven_roundDiv`: the rounded quotient of two natural numbers
is the rounding of their exact quotient.
-/

namespace WasmTrace

/-- An integer is the nearest one to a number, and of two nearest ones it is the even one. -/
structure IsNearestEven (x : ℚ) (n : ℤ) : Prop where
  /-- The integer is within half a unit of the number. -/
  near : |x - n| ≤ 1 / 2
  /-- Half a unit away there are two such integers, of which one is even. -/
  even : |x - n| = 1 / 2 → Even n

namespace IsNearestEven

variable {x : ℚ} {m n : ℤ}

lemma of_abs_lt (h : |x - n| < 1 / 2) : IsNearestEven x n :=
  ⟨h.le, fun htie => absurd htie h.ne⟩

lemma bounds (h : IsNearestEven x n) : (n : ℚ) - 1 / 2 ≤ x ∧ x ≤ n + 1 / 2 := by
  have hnear := abs_le.mp h.near
  constructor
  · linarith [hnear.1]
  · linarith [hnear.2]

/-- Rounding does not go below an integer. -/
lemma le_of_le (h : IsNearestEven x n) (hm : (m : ℚ) ≤ x) : m ≤ n := by
  by_contra hlt
  have hnext : ((n + 1 : ℤ) : ℚ) ≤ m := Int.cast_le.mpr (not_le.mp hlt)
  rw [Int.cast_add, Int.cast_one] at hnext
  linarith [h.bounds.2]

/-- Rounding does not go above an integer. -/
lemma ge_of_ge (h : IsNearestEven x n) (hm : x ≤ m) : n ≤ m := by
  by_contra hlt
  have hnext : ((m + 1 : ℤ) : ℚ) ≤ n := Int.cast_le.mpr (not_le.mp hlt)
  rw [Int.cast_add, Int.cast_one] at hnext
  linarith [h.bounds.1]

/-- Of two neighbours, at most one is the rounding of a number. -/
lemma le (hm : IsNearestEven x m) (hn : IsNearestEven x n) : n ≤ m := by
  by_contra hlt
  have hnext : ((m + 1 : ℤ) : ℚ) ≤ n := Int.cast_le.mpr (not_le.mp hlt)
  rw [Int.cast_add, Int.cast_one] at hnext
  -- both are half a unit away, so both are even
  have hxm : x - m = 1 / 2 := by linarith [hm.bounds.2, hn.bounds.1]
  have hxn : x - n = -(1 / 2) := by linarith [hm.bounds.2, hn.bounds.1]
  have hmeven : Even m := hm.even (by rw [hxm, abs_of_nonneg (by norm_num)])
  have hneven : Even n := hn.even (by rw [hxn, abs_neg, abs_of_nonneg (by norm_num)])
  have hsucc : n = m + 1 := by
    have hcast : (n : ℚ) = ((m + 1 : ℤ) : ℚ) := by
      rw [Int.cast_add, Int.cast_one]
      linarith
    exact Int.cast_injective hcast
  rw [hsucc, Int.even_add_one] at hneven
  exact hneven hmeven

/-- A number has one rounding. -/
lemma unique (hm : IsNearestEven x m) (hn : IsNearestEven x n) : m = n :=
  le_antisymm (hn.le hm) (hm.le hn)

end IsNearestEven

/-- The nearest integer to a number, a half going to the even neighbour. -/
def nearestEven (x : ℚ) : ℤ :=
  if x - ⌊x⌋ < 1 / 2 then ⌊x⌋
  else if 1 / 2 < x - ⌊x⌋ then ⌊x⌋ + 1
  else ⌊x⌋ + ⌊x⌋ % 2

lemma isNearestEven_nearestEven (x : ℚ) : IsNearestEven x (nearestEven x) := by
  have hfloor := Int.floor_le x
  have hlt := Int.lt_floor_add_one x
  unfold nearestEven
  split
  · next hbelow =>
    refine .of_abs_lt ?_
    rwa [abs_of_nonneg (by linarith)]
  · next hbelow =>
    split
    · next habove =>
      refine .of_abs_lt ?_
      rw [Int.cast_add, Int.cast_one, abs_of_nonpos (by linarith)]
      linarith
    · next habove =>
      have htie : x - ⌊x⌋ = 1 / 2 := le_antisymm (not_lt.mp habove) (not_lt.mp hbelow)
      rcases Int.emod_two_eq_zero_or_one ⌊x⌋ with heven | hodd
      · rw [heven, add_zero]
        refine ⟨?_, fun _ => Int.even_iff.mpr heven⟩
        rw [htie, abs_of_nonneg (by norm_num)]
      · rw [hodd]
        refine ⟨?_, fun _ => Int.even_add_one.mpr (Int.not_even_iff.mpr hodd)⟩
        rw [Int.cast_add, Int.cast_one, abs_of_nonpos (by linarith)]
        linarith

lemma IsNearestEven.eq_nearestEven {x : ℚ} {n : ℤ} (h : IsNearestEven x n) : n = nearestEven x :=
  h.unique (isNearestEven_nearestEven x)

namespace Decimal

/-- A rounded quotient that is half a unit away from the exact one is even. -/
lemma even_roundDiv {num den : Nat} (hden : 0 < den)
    (h : 2 * num = 2 * (den * roundDiv num den) + den ∨
      2 * num + den = 2 * (den * roundDiv num den)) : Even (roundDiv num den) := by
  have hdiv := Nat.div_add_mod num den
  have hmod := Nat.mod_lt num hden
  unfold roundDiv at h ⊢
  dsimp only at h ⊢
  split
  · next hbelow =>
    rw [if_pos hbelow] at h
    omega
  · next hbelow =>
    split
    · next habove =>
      rw [if_neg hbelow, if_pos habove, Nat.mul_add, Nat.mul_one] at h
      omega
    · rw [Nat.even_iff]
      omega

/-- **The rounded quotient is the rounding of the exact one.** -/
theorem isNearestEven_roundDiv (num : Nat) {den : Nat} (hden : 0 < den) :
    IsNearestEven (num / den) (roundDiv num den : ℕ) := by
  have hpos : (0 : ℚ) < den := Nat.cast_pos.mpr hden
  have hle : (2 : ℚ) * (den * roundDiv num den) ≤ 2 * num + den := by
    exact_mod_cast two_mul_roundDiv_le num den
  have hge : (2 : ℚ) * num ≤ 2 * (den * roundDiv num den) + den := by
    exact_mod_cast le_two_mul_roundDiv num hden
  have herror : |(num : ℚ) / den - (roundDiv num den : ℕ)| =
      |(num : ℚ) - den * roundDiv num den| / den := by
    rw [div_sub' hpos.ne', abs_div, abs_of_pos hpos]
  constructor
  · rw [Int.cast_natCast, herror, div_le_iff₀ hpos, abs_le]
    constructor <;> linarith
  · intro htie
    rw [Int.cast_natCast, herror, div_eq_iff hpos.ne'] at htie
    rw [Int.even_coe_nat]
    refine even_roundDiv hden ?_
    rcases abs_eq (by linarith : (0 : ℚ) ≤ 1 / 2 * den) |>.mp htie with habove | hbelow
    · left
      have hcast : (2 : ℚ) * num = 2 * (den * roundDiv num den) + den := by linarith
      exact_mod_cast hcast
    · right
      have hcast : (2 : ℚ) * num + den = 2 * (den * roundDiv num den) := by linarith
      exact_mod_cast hcast

end Decimal

end WasmTrace
