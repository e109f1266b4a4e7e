import Mathlib.Tactic.NormNum
import WasmTrace.Proofs.Scratch
import WasmTrace.Proofs.SecondPass

/-!
# How long the text of a number can be

A finite pattern other than a zero denotes a number between `2 ^ (-1074)` and `2 ^ 1024`, so its
exponent after rounding has at most three digits.  This bounds the text of both passes and that of
the number itself, in bytes.

The main statements are `Decimal.Magnitude.firstText` and `Decimal.Magnitude.secondText`, for
exponents within bounds, and `Binary64.exponent_bounds`, which gives the bounds.
-/

namespace WasmTrace

namespace Decimal

open Numeral (byteCount_minus_le isDigit_toDigits minus not_mem_minus not_mem_of_isDigit readInt32?
  signed toList_signed)

/-- A number in scientific notation: a digit, a point, five digits and an exponent of one to three
digits, with a minus sign for each of the two that is negative. -/
inductive IsScientific : List Char → Prop where
  /-- The parts in order. -/
  | parts (negative below : Bool) {lead : Char} {fraction exponent : List Char}
    (isDigit_lead : lead.isDigit = true) (isDigit_fraction : ∀ c ∈ fraction, c.isDigit = true)
    (length_fraction : fraction.length = 5) (isDigit_exponent : ∀ c ∈ exponent, c.isDigit = true)
    (exponent_pos : 0 < exponent.length) (length_exponent : exponent.length ≤ 3) :
    IsScientific (minus negative ++ lead :: '.' :: fraction ++ 'e' :: (minus below ++ exponent))

namespace IsScientific

variable {cs : List Char}

/-- It takes up at most thirteen bytes. -/
lemma byteCount_le (h : IsScientific cs) : byteCount cs ≤ 13 := by
  obtain ⟨negative, below, hlead, hfraction, hfive, hexponent, -, hthree⟩ := h
  have hsign := byteCount_minus_le negative
  have hbelow := byteCount_minus_le below
  rw [byteCount_append, byteCount_append, byteCount_cons (val_le_of_isDigit hlead),
    byteCount_cons (by decide : ('.' : Char).val ≤ 127),
    byteCount_cons (by decide : ('e' : Char).val ≤ 127), byteCount_append,
    byteCount_of_isDigit hfraction, byteCount_of_isDigit hexponent]
  omega

/-- There is one mark of an exponent. -/
lemma count_eq (h : IsScientific cs) : cs.count 'e' = 1 := by
  obtain ⟨negative, below, hlead, hfraction, -, hexponent, -, -⟩ := h
  have hdigits : ∀ ds : List Char, (∀ c ∈ ds, c.isDigit = true) → ds.count 'e' = 0 := fun ds hds =>
    List.count_eq_zero.mpr (not_mem_of_isDigit hds (by decide))
  have hminus : ∀ b : Bool, (minus b).count 'e' = 0 := fun b =>
    List.count_eq_zero.mpr (not_mem_minus (by decide) b)
  have hne : ∀ {c : Char}, c.isDigit = true → c ≠ 'e' := by
    rintro c hc rfl
    exact absurd hc (by decide)
  rw [List.count_append, List.count_append, List.count_cons_of_ne (hne hlead),
    List.count_cons_of_ne (by decide : '.' ≠ 'e'), List.count_cons_self, List.count_append, hminus,
    hminus, hdigits _ hfraction, hdigits _ hexponent]

end IsScientific

namespace Positional

variable {p : Positional}

/-- A numeral takes up a byte for each digit and one for the point. -/
lemma Wf.byteCount_chars_le (h : p.Wf) :
    byteCount p.chars ≤ p.whole.length + p.fraction.length + 1 := by
  unfold chars
  split
  · rw [byteCount_of_isDigit h.isDigit_whole]
    omega
  · rw [byteCount_append, byteCount_cons (by decide), byteCount_of_isDigit h.isDigit_whole,
      byteCount_of_isDigit h.isDigit_fraction]
    omega

lemma length_fraction_trimmed_le (p : Positional) :
    p.trimmed.fraction.length ≤ p.fraction.length := by
  obtain ⟨count, hfraction⟩ := p.exists_fraction_eq
  rw [hfraction, List.length_append]
  exact Nat.le_add_right _ _

/-- Trimming makes a numeral no longer. -/
lemma Wf.byteCount_trimmed_le (h : p.Wf) :
    byteCount p.trimmed.chars ≤ p.whole.length + p.fraction.length + 1 := by
  refine h.trimmed.byteCount_chars_le.trans ?_
  have hfraction := p.length_fraction_trimmed_le
  rw [whole_trimmed]
  omega

/-- Of less than a million units there are six digits, or one in front of the point if all of them
stand behind it. -/
lemma length_whole_ofUnits_le (places : ℕ) {n : ℕ} (hn : n < 10 ^ 6) :
    (ofUnits places n).whole.length ≤ max 1 (6 - places) := by
  refine (Nat.length_toDigits_le_iff (by decide) (by omega)).mpr ?_
  refine (Nat.div_lt_iff_lt_mul (Nat.pow_pos (by decide))).mpr (lt_of_lt_of_le hn ?_)
  rw [← pow_add]
  exact Nat.pow_le_pow_right (by decide) (by omega)

end Positional

namespace Magnitude

/-- The text of a number in scientific notation, as the first pass writes it.  The exponent has a
minus sign or none. -/
def scientific (v : Magnitude) (negative : Bool) : List Char :=
  minus negative ++ v.mantissa.chars ++ 'e' :: (signed v.roundedExponent).toList

/-- The text of a number in fixed notation, as the second pass writes it. -/
def positional (v : Magnitude) (negative : Bool) (places : ℕ) : List Char :=
  minus negative ++ (v.fixed places).chars

variable (v : Magnitude)

/-! ## Exponents -/

/-- The exponent after rounding is not less than the one before. -/
lemma exponent_le_roundedExponent : v.exponent ≤ v.roundedExponent := by
  rw [roundedExponent, toScientific_eq]
  split
  · exact (Int.lt_succ v.exponent).le
  · exact le_rfl

variable {v}

/-- A number of at most nine times a power of ten is not rounded up to the next one. -/
lemma roundedExponent_le {k : ℤ} (h : v.toRat ≤ 9 * 10 ^ k) : v.roundedExponent ≤ k := by
  have hpow : (0 : ℚ) < 10 ^ k := zpow_pos (by norm_num) k
  have hexponent : v.exponent < k + 1 := by
    have hlower := (zpow_log_bounds v.toRat_pos).1
    rw [← exponent_eq_log] at hlower
    refine (zpow_lt_zpow_iff_right₀ (by norm_num : (1 : ℚ) < 10)).mp (lt_of_le_of_lt hlower ?_)
    rw [zpow_add_one₀ (by norm_num)]
    linarith
  rw [roundedExponent, toScientific_eq]
  split
  · next hcarry =>
    -- at the last exponent there are not enough units for a carry
    have hne : v.exponent ≠ k := by
      rintro rfl
      have hunits : v.toRat * 10 ^ (5 - v.exponent) ≤ ((9 * 10 ^ 5 : ℤ) : ℚ) := by
        calc v.toRat * 10 ^ (5 - v.exponent)
            ≤ 9 * 10 ^ v.exponent * 10 ^ (5 - v.exponent) :=
              mul_le_mul_of_nonneg_right h (zpow_pos (by norm_num) _).le
          _ = ((9 * 10 ^ 5 : ℤ) : ℚ) := by
              rw [mul_assoc, ← zpow_add₀ (by norm_num), add_sub_cancel]
              norm_num
      have hle := (v.isNearestEven_scaled (5 - v.exponent)).ge_of_ge hunits
      rw [hcarry] at hle
      exact absurd hle (by decide)
    change v.exponent + 1 ≤ k
    omega
  · change v.exponent ≤ k
    omega

/-! ## Lengths -/

variable (v)

lemma wf_mantissa : v.mantissa.Wf := Positional.wf_ofUnits _ _

lemma wf_fixed (places : ℕ) : (v.fixed places).Wf := Positional.wf_ofUnits _ _

/-- A mantissa is written with its point, whatever stands behind it. -/
lemma exists_chars_mantissa : ∃ lead : Char, lead.isDigit = true ∧
    v.mantissa.chars = lead :: '.' :: v.mantissa.fraction := by
  obtain ⟨lead, hwhole, -⟩ := v.whole_mantissa
  have hlead : lead.isDigit = true :=
    v.wf_mantissa.isDigit_whole lead (hwhole ▸ List.mem_singleton_self lead)
  have hne : v.mantissa.fraction ≠ [] := by
    rw [ne_eq, ← List.length_eq_zero_iff, v.length_fraction_mantissa]
    decide
  refine ⟨lead, hlead, ?_⟩
  rw [Positional.chars_eq_pointed, pointed, if_neg hne, hwhole, List.singleton_append]

variable {v}

/-- The text of a number whose exponent is written explicitly is the trimmed mantissa with the
exponent. -/
lemma sixDigits_eq_mantissa (h : v.roundedExponent < -4 ∨ 6 ≤ v.roundedExponent) :
    v.sixDigits = v.mantissa.trimmed.chars ++ exponentChars v.roundedExponent := by
  refine if_neg fun hpositional => ?_
  have hleast : -4 ≤ v.roundedExponent := hpositional.1
  have hgreatest : v.roundedExponent < 6 := hpositional.2
  omega

/-- An exponent between the bounds has at most three digits. -/
lemma length_exponent_le (hleast : -324 ≤ v.roundedExponent) (hgreatest : v.roundedExponent ≤ 308) :
    (Nat.toDigits 10 v.roundedExponent.natAbs).length ≤ 3 :=
  (Nat.length_toDigits_le_iff (by decide) (by decide)).mpr (by omega)

/-- It is written explicitly with at most five bytes. -/
lemma byteCount_exponentChars_le (hleast : -324 ≤ v.roundedExponent)
    (hgreatest : v.roundedExponent ≤ 308) : byteCount (exponentChars v.roundedExponent) ≤ 5 := by
  have hlength := length_exponent_le hleast hgreatest
  have hsign : (if v.roundedExponent < 0 then '-' else '+').val ≤ 127 := by split <;> decide
  rw [exponentChars, byteCount_cons (by decide : ('e' : Char).val ≤ 127), byteCount_cons hsign,
    byteCount_of_isDigit (isDigit_leftpad _ _), List.length_leftpad, exponentWidth]
  omega

/-- The first pass writes a number in scientific notation. -/
lemma isScientific (hleast : -324 ≤ v.roundedExponent) (hgreatest : v.roundedExponent ≤ 308)
    (negative : Bool) : IsScientific (v.scientific negative) := by
  obtain ⟨lead, hlead, hchars⟩ := v.exists_chars_mantissa
  rw [scientific, hchars, toList_signed]
  exact .parts negative _ hlead v.wf_mantissa.isDigit_fraction v.length_fraction_mantissa
    (isDigit_toDigits _) Nat.length_toDigits_pos (length_exponent_le hleast hgreatest)

/-- The second pass writes at most ten digits, those of a number below one being the most. -/
lemma width_fixed_le (hleast : -4 ≤ v.roundedExponent) (hgreatest : v.roundedExponent < 6) :
    (v.fixed (5 - v.roundedExponent).toNat).whole.length +
      (v.fixed (5 - v.roundedExponent).toNat).fraction.length ≤ 10 := by
  have hfraction : (v.fixed (5 - v.roundedExponent).toNat).fraction.length =
      (5 - v.roundedExponent).toNat := Numeral.length_lastDigits _ _
  have hwhole : (v.fixed (5 - v.roundedExponent).toNat).whole.length ≤
      max 1 (6 - (5 - v.roundedExponent).toNat) := by
    rw [fixed_eq_ofUnits hgreatest]
    exact Positional.length_whole_ofUnits_le _ v.isSix_toScientific.upper
  omega

/-- It writes at most twelve bytes. -/
lemma byteCount_positional_le (hleast : -4 ≤ v.roundedExponent) (hgreatest : v.roundedExponent < 6)
    (negative : Bool) : byteCount (v.positional negative (5 - v.roundedExponent).toNat) ≤ 12 := by
  have hsign := byteCount_minus_le negative
  have hfixed := (v.wf_fixed (5 - v.roundedExponent).toNat).byteCount_chars_le
  have hwidth := width_fixed_le hleast hgreatest
  rw [positional, byteCount_append]
  omega

/-- The text of a number has at most thirteen bytes with its sign. -/
lemma byteCount_sixDigits_le (hleast : -324 ≤ v.roundedExponent)
    (hgreatest : v.roundedExponent ≤ 308) (negative : Bool) :
    byteCount (minus negative ++ v.sixDigits) ≤ 13 := by
  have hsign := byteCount_minus_le negative
  rw [byteCount_append]
  by_cases hpositional : -4 ≤ v.roundedExponent ∧ v.roundedExponent < 6
  · obtain ⟨hfrom, hbelow⟩ := hpositional
    have htrimmed := (v.wf_fixed (5 - v.roundedExponent).toNat).byteCount_trimmed_le
    have hwidth := width_fixed_le hfrom hbelow
    rw [sixDigits_eq_fixed hfrom hbelow]
    omega
  · obtain ⟨lead, hwhole, -⟩ := v.whole_mantissa
    have hmantissa := v.wf_mantissa.byteCount_trimmed_le
    have hexponent := byteCount_exponentChars_le hleast hgreatest
    rw [hwhole, v.length_fraction_mantissa, List.length_singleton] at hmantissa
    rw [sixDigits_eq_mantissa (by omega), byteCount_append]
    omega

/-- What the first pass leaves in scratch space. -/
structure FirstText (v : Magnitude) (negative : Bool) : Prop where
  /-- The text is in scientific notation. -/
  form : IsScientific (v.scientific negative)
  /-- It has at most thirteen bytes. -/
  bytes : byteCount (v.scientific negative) ≤ 13
  /-- So it comes through scratch space. -/
  through : ∀ cut, Scratch.through? cut (v.scientific negative) = some (v.scientific negative)
  /-- It has one mark of an exponent. -/
  mark : (v.scientific negative).count 'e' = 1
  /-- What stands behind the mark is read as the exponent. -/
  exponent : ∃ mantissa exponent,
    splitOnce? 'e' (v.scientific negative) = some (mantissa, exponent) ∧
      readInt32? exponent = some v.roundedExponent
  /-- The exponent is not less than that of the least number. -/
  least : -324 ≤ v.roundedExponent
  /-- It is not greater than that of the greatest number. -/
  greatest : v.roundedExponent ≤ 308

/-- What the second pass leaves in scratch space. -/
structure SecondText (v : Magnitude) (negative : Bool) : Prop where
  /-- It is not asked for a negative number of places. -/
  least : 0 ≤ 5 - v.roundedExponent
  /-- It is asked for at most nine places. -/
  greatest : 5 - v.roundedExponent ≤ 9
  /-- The text has at most twelve bytes. -/
  bytes : byteCount (v.positional negative (5 - v.roundedExponent).toNat) ≤ 12
  /-- So it comes through scratch space. -/
  through : ∀ cut, Scratch.through? cut (v.positional negative (5 - v.roundedExponent).toNat) =
    some (v.positional negative (5 - v.roundedExponent).toNat)

/-- The text of the first pass is taken apart into the mantissa and the exponent. -/
lemma splitOnce?_scientific (v : Magnitude) (negative : Bool) :
    splitOnce? 'e' (v.scientific negative) =
      some (minus negative ++ v.mantissa.chars, (signed v.roundedExponent).toList) := by
  refine splitOnce?_append (fun hmem => ?_) _
  rcases List.mem_append.mp hmem with hsign | hchars
  · exact not_mem_minus (by decide) negative hsign
  · exact v.wf_mantissa.not_mem_chars hchars

/-- The exponent is read back. -/
lemma readInt32?_roundedExponent (hleast : -324 ≤ v.roundedExponent)
    (hgreatest : v.roundedExponent ≤ 308) :
    readInt32? (signed v.roundedExponent).toList = some v.roundedExponent :=
  Numeral.readInt32?_signed (le_trans (by decide) hleast) (le_trans hgreatest (by decide))

/-- **An exponent of three digits keeps the text of the first pass short**, and it is read back. -/
theorem firstText (hleast : -324 ≤ v.roundedExponent) (hgreatest : v.roundedExponent ≤ 308)
    (negative : Bool) : v.FirstText negative := by
  have hform := isScientific hleast hgreatest negative
  refine ⟨hform, hform.byteCount_le, fun cut => ?_, hform.count_eq, ?_, hleast, hgreatest⟩
  · exact Scratch.through?_of_le cut (hform.byteCount_le.trans (by decide))
  · exact ⟨_, _, v.splitOnce?_scientific negative, readInt32?_roundedExponent hleast hgreatest⟩

/-- **So does an exponent between the bounds of fixed notation** for the second pass. -/
theorem secondText (hleast : -4 ≤ v.roundedExponent) (hgreatest : v.roundedExponent < 6)
    (negative : Bool) : v.SecondText negative := by
  have hbytes := byteCount_positional_le hleast hgreatest negative
  refine ⟨by omega, by omega, hbytes, fun cut => ?_⟩
  exact Scratch.through?_of_le cut (hbytes.trans (by decide))

end Magnitude

end Decimal

namespace Binary64

open Decimal (Magnitude)

/-! ## The range of a pattern -/

/-- A significand of at most 53 bits with the exponents that a pattern has. -/
lemma toRat_ofBinary_bounds {m : ℕ} {q : ℤ} (hm : 0 < m) (hbits : m < 2 ^ 53) (hleast : -1074 ≤ q)
    (hgreatest : q ≤ 971) : (2 : ℚ) ^ (-1074 : ℤ) ≤ (Magnitude.ofBinary m q hm).toRat ∧
      (Magnitude.ofBinary m q hm).toRat < 2 ^ (1024 : ℤ) := by
  have hone : (1 : ℚ) ≤ m := by exact_mod_cast hm
  have hpow : (0 : ℚ) < 2 ^ q := zpow_pos (by norm_num) q
  rw [toRat_ofBinary]
  constructor
  · calc (2 : ℚ) ^ (-1074 : ℤ) ≤ 2 ^ q := zpow_le_zpow_right₀ (by norm_num) hleast
      _ ≤ m * 2 ^ q := le_mul_of_one_le_left hpow.le hone
  · calc (m : ℚ) * 2 ^ q < 2 ^ 53 * 2 ^ q := by
          refine mul_lt_mul_of_pos_right ?_ hpow
          exact_mod_cast hbits
      _ ≤ 2 ^ 53 * 2 ^ (971 : ℤ) := by
          refine mul_le_mul_of_nonneg_left ?_ (by norm_num)
          exact zpow_le_zpow_right₀ (by norm_num) hgreatest
      _ = 2 ^ (1024 : ℤ) := by
          rw [← zpow_natCast, ← zpow_add₀ (by norm_num)]
          norm_num

/-- A finite pattern other than a zero denotes a number between the least one without a leading bit
and the power of two above the greatest one. -/
lemma toRat_bounds {bits : UInt64} {v : Magnitude} (h : value bits = .finite v) :
    (2 : ℚ) ^ (-1074 : ℤ) ≤ v.toRat ∧ v.toRat < 2 ^ (1024 : ℤ) := by
  have hexponent : exponentField bits < 2048 := Nat.mod_lt _ (by decide)
  have hfraction : fractionField bits < 2 ^ 52 := Nat.mod_lt _ (by decide)
  unfold value at h
  dsimp only at h
  split at h
  · split at h <;> cases h
  · next hfinite =>
    split at h
    · split at h
      · cases h
        exact toRat_ofBinary_bounds _ (by omega) le_rfl (by decide)
      · cases h
    · next hleading =>
      cases h
      refine toRat_ofBinary_bounds _ ?_ (by omega) (by omega)
      rw [Nat.shiftLeft_eq]
      omega

/-- **The exponent of a number after rounding has at most three digits.** -/
theorem exponent_bounds {bits : UInt64} {v : Magnitude} (h : value bits = .finite v) :
    -324 ≤ v.roundedExponent ∧ v.roundedExponent ≤ 308 := by
  obtain ⟨hlower, hupper⟩ := toRat_bounds h
  have hleast : 2 ^ 1074 ≤ 10 ^ 324 := by decide +kernel
  have hgreatest : 2 ^ 1024 ≤ 9 * 10 ^ 308 := by decide +kernel
  constructor
  · refine le_trans ?_ v.exponent_le_roundedExponent
    rw [v.exponent_eq_log, ← Int.zpow_le_iff_le_log (by decide) v.toRat_pos]
    refine le_trans ?_ hlower
    rw [zpow_neg, zpow_neg, zpow_ofNat, zpow_ofNat, inv_le_inv₀ (by positivity) (by positivity)]
    exact_mod_cast hleast
  · refine Magnitude.roundedExponent_le (hupper.le.trans ?_)
    rw [zpow_ofNat, zpow_ofNat]
    exact_mod_cast hgreatest

end Binary64

end WasmTrace
