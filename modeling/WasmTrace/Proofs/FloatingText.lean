import WasmTrace.Decimal.Binary64
import WasmTrace.Proofs.CanonicalForm

/-!
# The text of a number in floating point

A pattern of 64 bits denotes an exact rational, an infinity or no number.  Its text denotes the
rational with six significant figures, and there is one text for each rounded number of each sign.

The main statements are `Binary64.text_denotes_rounded` and `Binary64.text_canonical`.
-/

namespace WasmTrace

namespace Binary64

open Decimal (Canonical Magnitude Scientific)
open Numeral (read? readUnsigned?)

/-! ## What a pattern denotes -/

/-- The sign of a pattern as a factor. -/
def sign (bits : UInt64) : ℚ := if isNegative bits then -1 else 1

/-- The number that a pattern denotes; the infinities and what is no number denote none.  A pattern
with an exponent of zeros has no leading bit. -/
def number? (bits : UInt64) : Option ℚ :=
  if exponentField bits = 2047 then none
  else if exponentField bits = 0 then
    some (sign bits * (fractionField bits * 2 ^ (-1074 : ℤ)))
  else some (sign bits * ((2 ^ 52 + fractionField bits) * 2 ^ ((exponentField bits : ℤ) - 1075)))

/-- Whether a pattern is no number. -/
def IsNaN (bits : UInt64) : Prop := exponentField bits = 2047 ∧ fractionField bits ≠ 0

/-- Whether a pattern is an infinity. -/
def IsInfinite (bits : UInt64) : Prop := exponentField bits = 2047 ∧ fractionField bits = 0

/-- The number that a pattern denotes, with six significant figures. -/
def rounded? (bits : UInt64) : Option ℚ :=
  (number? bits).map fun x => if x < 0 then -sixFigures |x| else sixFigures |x|

lemma toRat_ofBinary (m : ℕ) (q : ℤ) (hm : 0 < m) :
    (Magnitude.ofBinary m q hm).toRat = m * 2 ^ q := by
  change ((m <<< q.toNat : ℕ) : ℚ) / (1 <<< (-q).toNat : ℕ) = m * 2 ^ q
  rw [zpow_eq_div (by norm_num), mul_div_assoc', Nat.shiftLeft_eq, Nat.shiftLeft_eq]
  push_cast
  rw [one_mul]

/-- What it means that a pattern is read as a value. -/
def Value.Denoted (bits : UInt64) : Value → Prop
  | .nan => IsNaN bits
  | .infinite => IsInfinite bits
  | .zero => number? bits = some 0
  | .finite v => number? bits = some (sign bits * v.toRat)

/-- A pattern is read as what it denotes. -/
lemma denoted_value (bits : UInt64) : (value bits).Denoted bits := by
  unfold value
  dsimp only
  split
  · next hexponent =>
    split
    · next hfraction => exact ⟨hexponent, hfraction⟩
    · next hfraction => exact ⟨hexponent, hfraction⟩
  · next hexponent =>
    split
    · next hzero =>
      split
      · next hfraction =>
        change number? bits = _
        rw [number?, if_neg hexponent, if_pos hzero, toRat_ofBinary]
      · next hfraction =>
        change number? bits = _
        rw [number?, if_neg hexponent, if_pos hzero, Nat.eq_zero_of_not_pos hfraction,
          Nat.cast_zero, zero_mul, mul_zero]
    · next hzero =>
      change number? bits = _
      rw [number?, if_neg hexponent, if_neg hzero, toRat_ofBinary, Nat.shiftLeft_eq, Nat.one_mul]
      push_cast
      rfl

/-- An exponent of ones is that of no number. -/
lemma number?_eq_none {bits : UInt64} (h : exponentField bits = 2047) : number? bits = none :=
  if_pos h

lemma value_eq_nan_iff (bits : UInt64) : value bits = .nan ↔ IsNaN bits := by
  constructor
  · intro h
    have hvalue := denoted_value bits
    rwa [h] at hvalue
  · rintro ⟨hexponent, hfraction⟩
    unfold value
    dsimp only
    rw [if_pos hexponent, if_neg hfraction]

lemma sign_mul_lt_zero_iff (bits : UInt64) {x : ℚ} (hx : 0 < x) :
    sign bits * x < 0 ↔ isNegative bits = true := by
  unfold sign
  cases isNegative bits with
  | true => exact iff_of_true (by rw [if_pos rfl]; linarith) rfl
  | false => exact iff_of_false (by rw [if_neg Bool.false_ne_true]; linarith) Bool.false_ne_true

lemma abs_sign_mul (bits : UInt64) {x : ℚ} (hx : 0 < x) : |sign bits * x| = x := by
  unfold sign
  split
  · rw [neg_one_mul, abs_neg, abs_of_pos hx]
  · rw [one_mul, abs_of_pos hx]

/-- A number has the sign of its pattern, and so has what is made of its magnitude. -/
lemma ite_neg_eq_sign_mul (bits : UInt64) {x : ℚ} (hx : 0 < x) (y : ℚ) :
    (if sign bits * x < 0 then -y else y) = sign bits * y := by
  by_cases hsign : isNegative bits = true
  · rw [if_pos ((sign_mul_lt_zero_iff bits hx).mpr hsign), sign, if_pos hsign, neg_one_mul]
  · rw [if_neg ((sign_mul_lt_zero_iff bits hx).not.mpr hsign), sign, if_neg hsign, one_mul]

/-! ## Values without a sign -/

namespace Value

/-- The number that a value stands for, with six significant figures. -/
def figures? : Value → Option ℚ
  | .nan | .infinite => none
  | .zero => some 0
  | .finite v => some (sixFigures v.toRat)

/-- The text of a value denotes the number with six significant figures. -/
lemma readUnsigned?_chars (value : Value) : readUnsigned? value.chars = value.figures? := by
  cases value with
  | nan => decide
  | infinite => decide
  | zero => decide
  | finite v =>
    change readUnsigned? v.sixDigits = some (sixFigures v.toRat)
    rw [v.sixDigits_eq, Scientific.readUnsigned?_chars, v.toRat_toScientific]

/-- The text of a value depends on the number with six significant figures only. -/
lemma chars_eq_of_figures?_eq {value other : Value} (hvalue : value ≠ .nan) (hother : other ≠ .nan)
    (h : value.figures? = other.figures?) : value.chars = other.chars := by
  cases value with
  | nan => exact absurd rfl hvalue
  | infinite =>
    cases other with
    | nan => exact absurd rfl hother
    | infinite => rfl
    | zero => exact absurd h (by simp [figures?])
    | finite w => exact absurd h (by simp [figures?])
  | zero =>
    cases other with
    | nan => exact absurd rfl hother
    | infinite => exact absurd h (by simp [figures?])
    | zero => rfl
    | finite w => exact absurd (Option.some.inj h) w.sixFigures_pos.ne
  | finite v =>
    cases other with
    | nan => exact absurd rfl hother
    | infinite => exact absurd h (by simp [figures?])
    | zero => exact absurd (Option.some.inj h) v.sixFigures_pos.ne'
    | finite w =>
      have hfigures : v.toScientific Decimal.fractionPlaces =
          w.toScientific Decimal.fractionPlaces := by
        refine v.isSix_toScientific.toRat_inj w.isSix_toScientific ?_
        rw [v.toRat_toScientific, w.toRat_toScientific]
        exact Option.some.inj h
      change v.sixDigits = w.sixDigits
      rw [v.sixDigits_eq, w.sixDigits_eq, hfigures]

/-- The text of a number other than zero has the form of its exponent after rounding. -/
lemma canonical_chars (v : Magnitude) :
    Canonical (Int.log 10 (sixFigures v.toRat)) (Value.finite v).chars := by
  change Canonical _ v.sixDigits
  rw [v.sixDigits_eq, ← v.toRat_toScientific, v.isSix_toScientific.log_toRat]
  exact Scientific.canonical_chars v.isSix_toScientific

/-- The text of a value does not begin with a sign. -/
lemma head_chars (value : Value) : value.chars.head? ≠ some '-' := by
  cases value with
  | nan => decide
  | infinite => decide
  | zero => decide
  | finite v =>
    obtain ⟨c, rest, hchars, hdigit⟩ := (canonical_chars v).exists_cons
    rw [hchars, List.head?_cons, Option.some_inj.ne]
    rintro rfl
    exact absurd hdigit (by decide)

end Value

/-! ## The text -/

/-- The text of a pattern, character by character. -/
lemma toList_text (bits : UInt64) :
    (text bits).toList = (if isNegative bits then ['-'] else []) ++ (value bits).chars := by
  rw [text, String.toList_ofList]

/-- The text begins with a minus sign exactly if the sign bit is set. -/
lemma head_text (bits : UInt64) : (text bits).toList.head? = some '-' ↔ isNegative bits = true := by
  rw [toList_text]
  cases isNegative bits with
  | true => exact iff_of_true rfl rfl
  | false => exact iff_of_false (value bits).head_chars Bool.false_ne_true

/-- The text denotes what the value denotes, with the sign of the pattern. -/
lemma read?_text (bits : UInt64) :
    read? (text bits) = (value bits).figures?.map fun x => sign bits * x := by
  rw [← (value bits).readUnsigned?_chars]
  unfold read? sign
  have hhead := (value bits).head_chars
  rw [toList_text]
  cases isNegative bits with
  | true =>
    change (readUnsigned? (value bits).chars).map (fun x => -x) = _
    simp only [if_true, neg_one_mul]
  | false =>
    rw [if_neg Bool.false_ne_true, List.nil_append, if_neg Bool.false_ne_true]
    simp only [one_mul, Option.map_id']
    split
    · next cs hcs => 
      rw [hcs] at hhead
      exact absurd rfl hhead
    · rfl

/-- A number other than zero is read as its magnitude. -/
lemma exists_finite {bits : UInt64} {x : ℚ} (hx : number? bits = some x) (hne : x ≠ 0) :
    ∃ v, value bits = .finite v ∧ x = sign bits * v.toRat := by
  have hvalue := denoted_value bits
  cases h : value bits with
  | nan =>
    rw [h] at hvalue
    exact absurd (hx.symm.trans (number?_eq_none hvalue.1)) (Option.some_ne_none x)
  | infinite =>
    rw [h] at hvalue
    exact absurd (hx.symm.trans (number?_eq_none hvalue.1)) (Option.some_ne_none x)
  | zero =>
    rw [h] at hvalue
    exact absurd (Option.some.inj (hx.symm.trans hvalue)) hne
  | finite v =>
    rw [h] at hvalue
    exact ⟨v, rfl, Option.some.inj (hx.symm.trans hvalue)⟩

/-- **The text of a finite number other than zero denotes the number with six significant
figures**: the number counted in units of the sixth figure and rounded to the nearest integer, a half
to the even one.  The order of magnitude is that of the exact number, so it makes no difference
whether the rounded one is a power of ten. -/
theorem text_denotes_rounded (bits : UInt64) (x : ℚ) (hx : number? bits = some x) (hne : x ≠ 0) :
    ∃ k n : ℤ, (10 : ℚ) ^ k ≤ |x| ∧ |x| < (10 : ℚ) ^ (k + 1) ∧
      IsNearestEven (|x| * 10 ^ (5 - k)) n ∧
      read? (text bits) =
        some (if x < 0 then -((n : ℚ) * 10 ^ (k - 5)) else (n : ℚ) * 10 ^ (k - 5)) := by
  obtain ⟨v, hvalue, rfl⟩ := exists_finite hx hne
  have hpos := v.toRat_pos
  obtain ⟨hlower, hupper⟩ := zpow_log_bounds hpos
  refine ⟨Int.log 10 v.toRat, nearestEven (v.toRat * 10 ^ (5 - Int.log 10 v.toRat)), ?_⟩
  rw [abs_sign_mul bits hpos]
  refine ⟨hlower, hupper, isNearestEven_nearestEven _, ?_⟩
  rw [read?_text, hvalue, ite_neg_eq_sign_mul bits hpos]
  rfl

/-- Half a unit below a million, the nearest even number of units is a million, which has one figure
more than the number. -/
theorem text_of_carry :
    number? 0x412E847F00000000 = some (1999999 / 2) ∧ (1999999 / 2 : ℚ) ≠ 0 ∧
      read? (text 0x412E847F00000000) = some 1000000 := by
  have hnumber : number? 0x412E847F00000000 = some (1999999 / 2) := by
    have hsign : isNegative 0x412E847F00000000 = false := by decide
    have hexponent : exponentField 0x412E847F00000000 = 1042 := by decide
    have hfraction : fractionField 0x412E847F00000000 = 4086330669662208 := by decide
    rw [number?, sign, hsign, hexponent, hfraction]
    norm_num
  have hne : (1999999 / 2 : ℚ) ≠ 0 := by norm_num
  obtain ⟨k, n, hlower, hupper, hnearest, hread⟩ := text_denotes_rounded _ _ hnumber hne
  have habs : |(1999999 / 2 : ℚ)| = 1999999 / 2 := abs_of_pos (by norm_num)
  rw [habs] at hlower hupper hnearest
  obtain rfl : k = 5 := by
    rw [← log_eq_of_le_of_lt hlower hupper]
    exact log_eq_of_le_of_lt (by norm_num) (by norm_num)
  have htie : IsNearestEven (1999999 / 2 * 10 ^ (5 - 5 : ℤ)) 1000000 := by
    refine ⟨?_, fun _ => by decide⟩
    norm_num [abs_of_neg]
  obtain rfl : n = 1000000 := hnearest.unique htie
  refine ⟨hnumber, hne, hread.trans ?_⟩
  norm_num

/-! ## The form of the text -/

/-- Two patterns have the same text exactly if they have the same sign and the same text without
it. -/
lemma text_eq_iff_chars (a b : UInt64) :
    text a = text b ↔ isNegative a = isNegative b ∧ (value a).chars = (value b).chars := by
  constructor
  · intro h
    have hsign : isNegative a = isNegative b := by
      rw [Bool.eq_iff_iff, ← head_text, ← head_text, h]
    have hchars := congrArg String.toList h
    rw [toList_text, toList_text, hsign] at hchars
    exact ⟨hsign, List.append_cancel_left hchars⟩
  · rintro ⟨hsign, hchars⟩
    rw [text, text, hsign, hchars]

/-- The rounded number is that of the value, with the sign of the pattern. -/
lemma rounded?_eq (bits : UInt64) :
    rounded? bits = (value bits).figures?.map fun x => sign bits * x := by
  have hvalue := denoted_value bits
  unfold rounded?
  cases h : value bits with
  | nan =>
    rw [h] at hvalue
    rw [number?_eq_none hvalue.1]
    rfl
  | infinite =>
    rw [h] at hvalue
    rw [number?_eq_none hvalue.1]
    rfl
  | zero =>
    have hzero : sixFigures 0 = 0 := by
      rw [sixFigures, zero_mul, ← (IsNearestEven.of_abs_lt (n := 0) (by norm_num)).eq_nearestEven,
        Int.cast_zero, zero_mul]
    rw [h] at hvalue
    rw [hvalue, Option.map_some, if_neg (lt_irrefl 0), abs_zero, hzero]
    exact congrArg some (mul_zero (sign bits)).symm
  | finite v =>
    have hpos := v.toRat_pos
    rw [h] at hvalue
    rw [hvalue, Option.map_some, abs_sign_mul bits hpos, ite_neg_eq_sign_mul bits hpos]
    rfl

/-- Patterns of numbers and infinities have the same text exactly if they have the same sign and
the same rounded number. -/
lemma text_eq_iff {a b : UInt64} (ha : ¬IsNaN a) (hb : ¬IsNaN b) :
    text a = text b ↔ isNegative a = isNegative b ∧ rounded? a = rounded? b := by
  rw [← value_eq_nan_iff] at ha hb
  rw [text_eq_iff_chars, rounded?_eq, rounded?_eq]
  refine and_congr_right fun hsign => ?_
  have hfactor : sign a = sign b := by rw [sign, sign, hsign]
  have hinjective : Function.Injective fun x : ℚ => sign b * x := by
    refine mul_right_injective₀ ?_
    unfold sign
    split
    · exact neg_ne_zero.mpr one_ne_zero
    · exact one_ne_zero
  rw [hfactor, (Option.map_injective hinjective).eq_iff]
  constructor
  · intro h
    rw [← Value.readUnsigned?_chars, ← Value.readUnsigned?_chars, h]
  · exact Value.chars_eq_of_figures?_eq ha hb

/-- The pattern with the other sign bit. -/
def flipSign (bits : UInt64) : UInt64 := bits ^^^ 0x8000000000000000

lemma isNegative_flipSign (bits : UInt64) : isNegative (flipSign bits) = !isNegative bits := by
  have hlt : bits.toNat >>> 63 < 2 := by
    rw [Nat.shiftRight_eq_div_pow]
    have h := bits.toNat_lt
    omega
  have hbit : (flipSign bits).toNat >>> 63 = bits.toNat >>> 63 ^^^ 1 := by
    rw [flipSign, UInt64.toNat_xor, Nat.shiftRight_xor_distrib]
    rfl
  rw [isNegative, isNegative, hbit]
  obtain hzero | hone : bits.toNat >>> 63 = 0 ∨ bits.toNat >>> 63 = 1 := by omega
  · rw [hzero]
    rfl
  · rw [hone]
    rfl

lemma exponentField_flipSign (bits : UInt64) : exponentField (flipSign bits) = exponentField bits := by
  have hfield : ((0x8000000000000000 : UInt64).toNat >>> 52) % 2 ^ 11 = 0 := by decide
  rw [exponentField, exponentField, flipSign, UInt64.toNat_xor, Nat.shiftRight_xor_distrib]
  change _ % 2 ^ 11 = _ % 2 ^ 11
  rw [Nat.xor_mod_two_pow, hfield, Nat.xor_zero]

lemma fractionField_flipSign (bits : UInt64) : fractionField (flipSign bits) = fractionField bits := by
  have hfield : (0x8000000000000000 : UInt64).toNat % 2 ^ 52 = 0 := by decide
  rw [fractionField, fractionField, flipSign, UInt64.toNat_xor]
  change _ % 2 ^ 52 = _ % 2 ^ 52
  rw [Nat.xor_mod_two_pow, hfield, Nat.xor_zero]

/-- The sign bit is no part of the value. -/
lemma value_flipSign (bits : UInt64) : value (flipSign bits) = value bits := by
  unfold value
  simp only [exponentField_flipSign, fractionField_flipSign]

/-- The text of a pattern without its sign, by what the pattern denotes. -/
inductive Body (bits : UInt64) : List Char → Prop where
  /-- A word for what is no number. -/
  | nan (h : IsNaN bits) : Body bits "nan".toList
  /-- A word for the infinities. -/
  | infinite (h : IsInfinite bits) : Body bits "inf".toList
  /-- A zero. -/
  | zero (h : number? bits = some 0) : Body bits ['0']
  /-- A numeral in the form of its exponent after rounding. -/
  | number {x : ℚ} {body : List Char} (hx : number? bits = some x) (hne : x ≠ 0)
    (h : Canonical (Int.log 10 (sixFigures |x|)) body) : Body bits body

lemma body_chars (bits : UInt64) : Body bits (value bits).chars := by
  have hvalue := denoted_value bits
  cases h : value bits with
  | nan =>
    rw [h] at hvalue
    exact .nan hvalue
  | infinite =>
    rw [h] at hvalue
    exact .infinite hvalue
  | zero =>
    rw [h] at hvalue
    exact .zero hvalue
  | finite v =>
    rw [h] at hvalue
    have habs := abs_sign_mul bits v.toRat_pos
    refine .number hvalue ?_ ?_
    · intro hzero
      rw [hzero, abs_zero] at habs
      exact v.toRat_pos.ne habs
    · rw [habs]
      exact Value.canonical_chars v

/-- A number is written with an explicit exponent exactly if its exponent after rounding is not
between `-4` and `5`. -/
lemma mem_text_iff {bits : UInt64} {x : ℚ} (hx : number? bits = some x) (hne : x ≠ 0) :
    'e' ∈ (text bits).toList ↔
      Int.log 10 (sixFigures |x|) < -4 ∨ 6 ≤ Int.log 10 (sixFigures |x|) := by
  obtain ⟨v, hvalue, rfl⟩ := exists_finite hx hne
  have hsign : 'e' ∉ if isNegative bits then ['-'] else [] := by
    split <;> decide
  rw [toList_text, List.mem_append, or_iff_right hsign, hvalue, abs_sign_mul bits v.toRat_pos]
  exact (Value.canonical_chars v).mem_iff

/-- **There is one text for each rounded number of each sign.**  The text of a pattern is a word, a
zero or a numeral in the form of its exponent, after a minus sign if the sign bit is set.  Flipping
the sign bit puts the minus sign in front or takes it away, and changes nothing else.  Patterns of
numbers and infinities have the same text exactly if they have the same sign and the same rounded
number, and what is no number is told apart by the sign bit only. -/
theorem text_canonical :
    (∀ bits : UInt64, ∃ body : List Char, Body bits body ∧
      (text bits).toList = (if isNegative bits then ['-'] else []) ++ body) ∧
    (∀ (bits : UInt64) (x : ℚ), number? bits = some x → x ≠ 0 →
      ('e' ∈ (text bits).toList ↔
        Int.log 10 (sixFigures |x|) < -4 ∨ 6 ≤ Int.log 10 (sixFigures |x|))) ∧
    (∀ bits : UInt64, isNegative (flipSign bits) = !isNegative bits ∧
      (text (flipSign bits)).toList =
        if isNegative bits then (text bits).toList.tail else '-' :: (text bits).toList) ∧
    (∀ a b : UInt64, ¬IsNaN a → ¬IsNaN b →
      (text a = text b ↔ isNegative a = isNegative b ∧ rounded? a = rounded? b)) ∧
    (∀ bits : UInt64, IsNaN bits → text bits = if isNegative bits then "-nan" else "nan") := by
  refine ⟨fun bits => ⟨_, body_chars bits, toList_text bits⟩, fun bits x => mem_text_iff, ?_,
    fun a b => text_eq_iff, ?_⟩
  · intro bits
    refine ⟨isNegative_flipSign bits, ?_⟩
    rw [toList_text, toList_text, isNegative_flipSign, value_flipSign]
    cases isNegative bits with
    | true => rfl
    | false => rfl
  · intro bits hnan
    rw [text, (value_eq_nan_iff bits).mpr hnan]
    cases isNegative bits with
    | true => rfl
    | false => rfl

/-- One and the number after it have the same text, since they are rounded to the same number. -/
theorem text_of_neighbours :
    ¬IsNaN 0x3FF0000000000000 ∧ ¬IsNaN 0x3FF0000000000001 ∧
      text 0x3FF0000000000000 = text 0x3FF0000000000001 := by
  have hone : number? 0x3FF0000000000000 = some 1 := by
    have hsign : isNegative 0x3FF0000000000000 = false := by decide
    have hexponent : exponentField 0x3FF0000000000000 = 1023 := by decide
    have hfraction : fractionField 0x3FF0000000000000 = 0 := by decide
    rw [number?, sign, hsign, hexponent, hfraction]
    norm_num
  have hnext : number? 0x3FF0000000000001 = some (1 + 1 / 2 ^ 52) := by
    have hsign : isNegative 0x3FF0000000000001 = false := by decide
    have hexponent : exponentField 0x3FF0000000000001 = 1023 := by decide
    have hfraction : fractionField 0x3FF0000000000001 = 1 := by decide
    rw [number?, sign, hsign, hexponent, hfraction]
    norm_num
  have hrounded : ∀ x : ℚ, 1 ≤ x → x < 1 + 1 / 10 ^ 6 → sixFigures |x| = 1 := by
    intro x hlower hupper
    have hlog : Int.log 10 x = 0 := log_eq_of_le_of_lt (by norm_num; linarith) (by norm_num; linarith)
    have hnearest : IsNearestEven (x * 10 ^ (5 - 0 : ℤ)) 100000 := by
      refine .of_abs_lt ?_
      rw [abs_lt]
      norm_num
      constructor <;> linarith
    rw [abs_of_pos (by linarith), sixFigures, hlog, ← hnearest.eq_nearestEven]
    norm_num
  have hnan : ¬IsNaN 0x3FF0000000000000 ∧ ¬IsNaN 0x3FF0000000000001 := by
    constructor <;> rintro ⟨hexponent, -⟩ <;> exact absurd hexponent (by decide)
  refine ⟨hnan.1, hnan.2, (text_canonical.2.2.2.1 _ _ hnan.1 hnan.2).mpr ⟨by decide, ?_⟩⟩
  rw [rounded?, rounded?, hone, hnext, Option.map_some, Option.map_some,
    hrounded 1 (by norm_num) (by norm_num), hrounded (1 + 1 / 2 ^ 52) (by norm_num) (by norm_num)]
  norm_num

end Binary64

end WasmTrace
