import WasmTrace.Layer
import WasmTrace.Proofs.FloatingText
import WasmTrace.Proofs.Prescription

/-!
# Numbers in two widths

A constant of 32 bits is shown through the pattern of 64 bits that denotes the same number.  All
numbers of the narrow format have such a pattern: what has no leading bit there has one in the wide
format, after its highest bit was moved to the front.

The main statements are `Binary32.number?_widen`, widening is exact, and
`Binary32.constants_agree`, constants of both widths that denote the same are shown alike.
-/

namespace WasmTrace

namespace Binary64

open Numeral (read?)

/-! ## Patterns from fields -/

section Fields

variable {s e f : ℕ}

lemma toNat_ofFields (hs : s < 2) (he : e < 2048) (hf : f < 2 ^ 52) :
    (ofFields s e f).toNat = s * 2 ^ 63 + e * 2 ^ 52 + f := by
  rw [ofFields, Nat.shiftLeft_eq, Nat.shiftLeft_eq, UInt64.toNat_ofNat']
  exact Nat.mod_eq_of_lt (by omega)

lemma isNegative_ofFields (hs : s < 2) (he : e < 2048) (hf : f < 2 ^ 52) :
    isNegative (ofFields s e f) = (s == 1) := by
  have hbit : (ofFields s e f).toNat >>> 63 = s := by
    rw [toNat_ofFields hs he hf, Nat.shiftRight_eq_div_pow]
    omega
  rw [isNegative, hbit]

lemma exponentField_ofFields (hs : s < 2) (he : e < 2048) (hf : f < 2 ^ 52) :
    exponentField (ofFields s e f) = e := by
  rw [exponentField, toNat_ofFields hs he hf, Nat.shiftRight_eq_div_pow]
  omega

lemma fractionField_ofFields (hs : s < 2) (he : e < 2048) (hf : f < 2 ^ 52) :
    fractionField (ofFields s e f) = f := by
  rw [fractionField, toNat_ofFields hs he hf, Nat.shiftLeft_eq]
  omega

end Fields

/-! ## Texts of the same number -/

/-- The text denotes the number with six significant figures. -/
lemma read?_text_eq_rounded? (bits : UInt64) : read? (text bits) = rounded? bits :=
  (read?_text bits).trans (rounded?_eq bits).symm

lemma not_isNaN_of_number? {bits : UInt64} {x : ℚ} (h : number? bits = some x) : ¬IsNaN bits := by
  rintro ⟨hexponent, -⟩
  rw [number?_eq_none hexponent] at h
  cases h

lemma not_isNaN_of_isInfinite {bits : UInt64} (h : IsInfinite bits) : ¬IsNaN bits :=
  fun hnan => hnan.2 h.2

/-- Patterns of the same number have the same text, if they have the same sign. -/
lemma text_eq_of_number? {a b : UInt64} {x : ℚ} (ha : number? a = some x) (hb : number? b = some x)
    (hsign : isNegative a = isNegative b) : text a = text b := by
  refine (text_eq_iff (not_isNaN_of_number? ha) (not_isNaN_of_number? hb)).mpr ⟨hsign, ?_⟩
  rw [rounded?, rounded?, ha, hb]

/-- The sign of a number other than zero is that of its pattern. -/
lemma isNegative_iff {bits : UInt64} {x : ℚ} (hx : number? bits = some x) (hne : x ≠ 0) :
    isNegative bits = true ↔ x < 0 := by
  obtain ⟨v, -, rfl⟩ := exists_finite hx hne
  exact (sign_mul_lt_zero_iff bits v.toRat_pos).symm

end Binary64

namespace Binary32

open Numeral (read?)

/-! ## What a pattern of 32 bits denotes -/

/-- Whether the sign bit is set. -/
def isNegative (bits : UInt32) : Bool := signField bits == 1

/-- The sign of a pattern as a factor. -/
def sign (bits : UInt32) : ℚ := if isNegative bits then -1 else 1

/-- The number that a pattern denotes; the infinities and what is no number denote none.  A pattern
with an exponent of zeros has no leading bit. -/
def number? (bits : UInt32) : Option ℚ :=
  if exponentField bits = 255 then none
  else if exponentField bits = 0 then
    some (sign bits * (fractionField bits * 2 ^ (-149 : ℤ)))
  else some (sign bits * ((2 ^ 23 + fractionField bits) * 2 ^ ((exponentField bits : ℤ) - 150)))

/-- Whether a pattern is no number. -/
def IsNaN (bits : UInt32) : Prop := exponentField bits = 255 ∧ fractionField bits ≠ 0

/-- Whether a pattern is an infinity. -/
def IsInfinite (bits : UInt32) : Prop := exponentField bits = 255 ∧ fractionField bits = 0

lemma signField_lt (bits : UInt32) : signField bits < 2 := by
  have h := bits.toNat_lt
  rw [signField, Nat.shiftRight_eq_div_pow]
  omega

lemma exponentField_lt (bits : UInt32) : exponentField bits < 256 := Nat.mod_lt _ (by decide)

lemma fractionField_lt (bits : UInt32) : fractionField bits < 2 ^ 23 := Nat.mod_lt _ (by decide)

/-! ## Widening -/

/-- A fraction below its leading bit, moved up so far that the leading bit is the one in front of the
fraction of the wide format. -/
lemma normalized {f : ℕ} (hf : f ≠ 0) (hlt : f < 2 ^ 23) :
    f.log2 < 23 ∧ (f - 2 ^ f.log2) * 2 ^ (52 - f.log2) < 2 ^ 52 ∧
      2 ^ 52 + (f - 2 ^ f.log2) * 2 ^ (52 - f.log2) = f * 2 ^ (52 - f.log2) := by
  have hlog : f.log2 < 23 := (Nat.log2_lt hf).mpr hlt
  have hlower : 2 ^ f.log2 ≤ f := Nat.log2_self_le hf
  have hupper : f < 2 ^ (f.log2 + 1) := Nat.lt_log2_self
  have hpow : 2 ^ f.log2 * 2 ^ (52 - f.log2) = 2 ^ 52 := by
    rw [← pow_add]
    congr 1
    omega
  refine ⟨hlog, ?_, ?_⟩
  · rw [← hpow]
    refine Nat.mul_lt_mul_of_pos_right ?_ (Nat.two_pow_pos _)
    rw [pow_succ] at hupper
    omega
  · rw [← hpow, ← add_mul, Nat.add_sub_cancel' hlower]

/-- A number that is given a leading bit stays the same. -/
lemma lifted_eq {f : ℕ} (hf : f ≠ 0) (hlt : f < 2 ^ 23) :
    ((2 : ℚ) ^ 52 + ((f - 2 ^ f.log2) * 2 ^ (52 - f.log2) : ℕ)) *
        2 ^ (((874 + f.log2 : ℕ) : ℤ) - 1075) = f * 2 ^ (-149 : ℤ) := by
  obtain ⟨hlog, -, hsum⟩ := normalized hf hlt
  have hnumber : (2 : ℚ) ^ 52 + ((f - 2 ^ f.log2) * 2 ^ (52 - f.log2) : ℕ) =
      f * 2 ^ (52 - f.log2) := by
    exact_mod_cast hsum
  have hpow : (2 : ℚ) ^ (52 - f.log2) * 2 ^ (((874 + f.log2 : ℕ) : ℤ) - 1075) =
      2 ^ (-149 : ℤ) := by
    rw [← zpow_natCast, ← zpow_add₀ (by norm_num)]
    congr 1
    omega
  rw [hnumber, mul_assoc, hpow]

/-- A number with a leading bit stays the same when its fraction moves up and the bias changes. -/
lemma moved_eq (e f : ℕ) :
    ((2 : ℚ) ^ 52 + (f * 2 ^ 29 : ℕ)) * 2 ^ (((e + 896 : ℕ) : ℤ) - 1075) =
      (2 ^ 23 + f) * 2 ^ ((e : ℤ) - 150) := by
  have hpow : (2 : ℚ) ^ 29 * 2 ^ (((e + 896 : ℕ) : ℤ) - 1075) = 2 ^ ((e : ℤ) - 150) := by
    rw [← zpow_natCast, ← zpow_add₀ (by norm_num)]
    refine congrArg _ ?_
    push_cast
    ring
  have hsum : (2 : ℚ) ^ 52 + (f * 2 ^ 29 : ℕ) = (2 ^ 23 + f) * 2 ^ 29 := by
    push_cast
    ring
  rw [hsum, mul_assoc, hpow]

/-- The exponent and the fraction of a widened pattern, by what the pattern is. -/
inductive Widened (bits : UInt32) : ℕ → ℕ → Prop where
  /-- The infinities and what is no number keep an exponent of ones. -/
  | ones (h : exponentField bits = 255) : Widened bits 2047 (fractionField bits * 2 ^ 29)
  /-- A zero stays a zero. -/
  | zero (h : exponentField bits = 0) (hf : fractionField bits = 0) : Widened bits 0 0
  /-- Without a leading bit, the highest bit becomes one. -/
  | lifted (h : exponentField bits = 0) (hf : fractionField bits ≠ 0) :
    Widened bits (874 + (fractionField bits).log2)
      ((fractionField bits - 2 ^ (fractionField bits).log2) * 2 ^ (52 - (fractionField bits).log2))
  /-- With a leading bit, only the bias of the exponent changes. -/
  | moved (hones : exponentField bits ≠ 255) (hzero : exponentField bits ≠ 0) :
    Widened bits (exponentField bits + 896) (fractionField bits * 2 ^ 29)

/-- The fields fit into the wide format. -/
lemma Widened.lt {bits : UInt32} {e f : ℕ} (h : Widened bits e f) : e < 2048 ∧ f < 2 ^ 52 := by
  have hexponent := exponentField_lt bits
  have hfraction := fractionField_lt bits
  cases h with
  | ones h => omega
  | zero h hf => decide
  | lifted h hf =>
    obtain ⟨hlog, hlt, -⟩ := normalized hf hfraction
    exact ⟨by omega, hlt⟩
  | moved hones hzero => omega

/-- Exponents of ones, and no others, become exponents of ones. -/
lemma Widened.exponent_iff {bits : UInt32} {e f : ℕ} (h : Widened bits e f) :
    e = 2047 ↔ exponentField bits = 255 := by
  have hexponent := exponentField_lt bits
  cases h with
  | ones h => exact iff_of_true rfl h
  | zero h hf => omega
  | lifted h hf =>
    have hlog := (normalized hf (fractionField_lt bits)).1
    omega
  | moved hones hzero => omega

/-- Below an exponent of ones, fractions of zeros, and no others, become fractions of zeros. -/
lemma Widened.fraction_iff {bits : UInt32} {e f : ℕ} (h : Widened bits e f)
    (hones : exponentField bits = 255) : f = 0 ↔ fractionField bits = 0 := by
  cases h with
  | ones _ => omega
  | zero _ hf => exact iff_of_true rfl hf
  | lifted hzero _ => omega
  | moved h _ => exact absurd hones h

/-- A widened pattern has the sign of the pattern, and the exponent and the fraction of its case. -/
lemma exists_widened (bits : UInt32) :
    ∃ e f, Widened bits e f ∧ widen bits = Binary64.ofFields (signField bits) e f := by
  simp only [widen, Nat.shiftLeft_eq, Nat.one_mul]
  split
  · next h => exact ⟨_, _, .ones h, rfl⟩
  · next hones =>
    split
    · next h =>
      split
      · next hf => exact ⟨_, _, .zero h hf, rfl⟩
      · next hf => exact ⟨_, _, .lifted h hf, rfl⟩
    · next hzero => exact ⟨_, _, .moved hones hzero, rfl⟩

/-- Widening keeps the sign bit. -/
lemma isNegative_widen (bits : UInt32) : Binary64.isNegative (widen bits) = isNegative bits := by
  obtain ⟨e, f, hfields, hwiden⟩ := exists_widened bits
  rw [hwiden, Binary64.isNegative_ofFields (signField_lt bits) hfields.lt.1 hfields.lt.2, isNegative]

/-- The fields of a widened pattern. -/
lemma fields_widen (bits : UInt32) :
    Widened bits (Binary64.exponentField (widen bits)) (Binary64.fractionField (widen bits)) := by
  obtain ⟨e, f, hfields, hwiden⟩ := exists_widened bits
  have hsign := signField_lt bits
  rwa [hwiden, Binary64.exponentField_ofFields hsign hfields.lt.1 hfields.lt.2,
    Binary64.fractionField_ofFields hsign hfields.lt.1 hfields.lt.2]

/-- **Widening is exact**: a pattern and the widened one denote the same number. -/
theorem number?_widen (bits : UInt32) : Binary64.number? (widen bits) = number? bits := by
  have hfields := fields_widen bits
  have hexponent := exponentField_lt bits
  have hsign : Binary64.sign (widen bits) = sign bits := by
    rw [Binary64.sign, isNegative_widen, sign]
  rw [Binary64.number?, number?, hsign]
  generalize Binary64.exponentField (widen bits) = e at hfields ⊢
  generalize Binary64.fractionField (widen bits) = f at hfields ⊢
  cases hfields with
  | ones h => rw [if_pos rfl, if_pos h]
  | zero h hf => simp [h, hf]
  | lifted h hf =>
    have hlog := (normalized hf (fractionField_lt bits)).1
    rw [if_neg (by omega), if_neg (by omega), if_neg (by omega), if_pos h,
      lifted_eq hf (fractionField_lt bits)]
  | moved hones hzero =>
    rw [if_neg (by omega), if_neg (by omega), if_neg hones, if_neg hzero, moved_eq]

/-- What is no number is widened to what is no number, and nothing else is. -/
lemma isNaN_widen_iff (bits : UInt32) : Binary64.IsNaN (widen bits) ↔ IsNaN bits := by
  have hfields := fields_widen bits
  exact (and_congr_left fun _ => hfields.exponent_iff).trans
    (and_congr_right fun hones => (hfields.fraction_iff hones).not)

/-- The infinities are widened to infinities, and nothing else is. -/
lemma isInfinite_widen_iff (bits : UInt32) : Binary64.IsInfinite (widen bits) ↔ IsInfinite bits := by
  have hfields := fields_widen bits
  exact (and_congr_left fun _ => hfields.exponent_iff).trans (and_congr_right hfields.fraction_iff)

/-! ## Patterns of both widths -/

/-- A pattern of 32 bits and one of 64 bits denote the same. -/
inductive Agree (b : UInt32) (B : UInt64) : Prop where
  /-- The same number, which has a sign of its own. -/
  | number {x : ℚ} (hne : x ≠ 0) (hb : number? b = some x) (hB : Binary64.number? B = some x)
  /-- Zeros of the same sign. -/
  | zero (hb : number? b = some 0) (hB : Binary64.number? B = some 0)
    (hsign : isNegative b = Binary64.isNegative B)
  /-- The same infinity. -/
  | infinite (hb : IsInfinite b) (hB : Binary64.IsInfinite B)
    (hsign : isNegative b = Binary64.isNegative B)
  /-- No numbers, with the same sign bit. -/
  | nan (hb : IsNaN b) (hB : Binary64.IsNaN B) (hsign : isNegative b = Binary64.isNegative B)

/-- A widened pattern denotes what the pattern does. -/
lemma agree_widen (b : UInt32) : Agree b (widen b) := by
  have hsign := (isNegative_widen b).symm
  by_cases hexponent : exponentField b = 255
  · by_cases hfraction : fractionField b = 0
    · have hb : IsInfinite b := ⟨hexponent, hfraction⟩
      exact .infinite hb ((isInfinite_widen_iff b).mpr hb) hsign
    · have hb : IsNaN b := ⟨hexponent, hfraction⟩
      exact .nan hb ((isNaN_widen_iff b).mpr hb) hsign
  · obtain ⟨x, hx⟩ : ∃ x, number? b = some x := by
      rw [number?, if_neg hexponent]
      split
      · exact ⟨_, rfl⟩
      · exact ⟨_, rfl⟩
    have hwide := (number?_widen b).trans hx
    by_cases hzero : x = 0
    · subst hzero
      exact .zero hx hwide hsign
    · exact .number hzero hx hwide

/-- What denotes the same is shown alike: the text of the wide pattern is that of the widened one. -/
lemma Agree.text_eq {b : UInt32} {B : UInt64} (h : Agree b B) : text b = Binary64.text B := by
  rw [text]
  have hkeeps := isNegative_widen b
  cases h with
  | number hne hb hB =>
    have hwide := (number?_widen b).trans hb
    refine Binary64.text_eq_of_number? hwide hB ?_
    rw [Bool.eq_iff_iff, Binary64.isNegative_iff hwide hne, Binary64.isNegative_iff hB hne]
  | zero hb hB hsign =>
    exact Binary64.text_eq_of_number? ((number?_widen b).trans hb) hB (hkeeps.trans hsign)
  | infinite hb hB hsign =>
    have hwide := (isInfinite_widen_iff b).mpr hb
    refine (Binary64.text_eq_iff (Binary64.not_isNaN_of_isInfinite hwide)
      (Binary64.not_isNaN_of_isInfinite hB)).mpr ⟨hkeeps.trans hsign, ?_⟩
    rw [Binary64.rounded?, Binary64.rounded?, Binary64.number?_eq_none hwide.1,
      Binary64.number?_eq_none hB.1]
  | nan hb hB hsign =>
    have hwide := (isNaN_widen_iff b).mpr hb
    refine (Binary64.text_eq_iff_chars _ _).mpr ⟨hkeeps.trans hsign, ?_⟩
    rw [(Binary64.value_eq_nan_iff _).mpr hwide, (Binary64.value_eq_nan_iff B).mpr hB]

/-- The text of a pattern denotes its own number with six significant figures. -/
lemma read?_text (b : UInt32) :
    read? (text b) = (number? b).map fun x => if x < 0 then -sixFigures |x| else sixFigures |x| := by
  rw [text, Binary64.read?_text_eq_rounded?, Binary64.rounded?, number?_widen]

end Binary32

/-! ## Lines of constants -/

/-- A layer writes the line for an event, at its depth, and stays as it is. -/
def Layer.Shows (l : Layer) (e : Event) (s : String) : Prop :=
  ∃ parts, l.log e = .ok (l, parts) ∧
    parts.flatten = List.replicate l.depth Bytes.space ++ (Bytes.ofText s ++ [Bytes.newline])

/-- An event that moves no level is shown by the prescribed line. -/
lemma Layer.shows_of_leaf (l : Layer) {e : Event} {s : String} (hrole : e.role = .leaf)
    (hline : Bytes.ofText s = Bytes.ofText e.kind.name ++
      e.args.apply (Prescribed.arguments e.kind)) : l.Shows e s := by
  refine ⟨l.line e, ?_, ?_⟩
  · rw [log, hrole]
  · rw [line, List.flatten_append, Event.flatten_line, ← hline, Indent.runs,
      Indent.flatten_spaceRuns]
    rfl

namespace Binary32

open Bytes (ofText)
open Numeral (decimal hex read?)
open Prescribed

/-- **Constants of both widths that denote the same are shown alike.**  Each pattern of 32 bits has
one of 64 bits that denotes the same, and whenever two denote the same, all lines show one text for
them, which denotes the number with six significant figures.  The pattern itself follows in
hexadecimal. -/
theorem constants_agree (b : UInt32) :
    Agree b (widen b) ∧ ∀ B : UInt64, Agree b B → ∀ (l : Layer) (i : UInt32), ∃ s : String,
      l.Shows ⟨.onF32ConstExpr, .cons b .nil⟩
        ("OnF32ConstExpr(" ++ s ++ " (0x" ++ hex b.toNat ++ "))") ∧
      l.Shows ⟨.onInitExprF32ConstExpr, .cons i (.cons b .nil)⟩
        ("OnInitExprF32ConstExpr(index: " ++ decimal i.toNat ++ ", value: " ++ s ++
          " (0x" ++ hex b.toNat ++ "))") ∧
      l.Shows ⟨.onF64ConstExpr, .cons B .nil⟩
        ("OnF64ConstExpr(" ++ s ++ " (0x" ++ hex B.toNat ++ "))") ∧
      l.Shows ⟨.onInitExprF64ConstExpr, .cons i (.cons B .nil)⟩
        ("OnInitExprF64ConstExpr(index: " ++ decimal i.toNat ++ " value: " ++ s ++
          " (0x" ++ hex B.toNat ++ "))") ∧
      read? s = (number? b).map fun x => if x < 0 then -sixFigures |x| else sixFigures |x| := by
  refine ⟨agree_widen b, fun B h l i => ⟨text b, l.shows_of_leaf rfl ?_, l.shows_of_leaf rfl ?_,
    l.shows_of_leaf rfl ?_, l.shows_of_leaf rfl ?_, read?_text b⟩⟩
  all_goals simp only [h.text_eq, Bytes.ofText_append, Args.apply, arguments, tuple, field, number,
    separated, marked]
  -- fixed texts are cut differently on the two sides, so they are compared letter by letter
  all_goals simp only [Kind.name, Kind.entry, ofText, String.reduceToList, List.flatMap_cons,
    List.flatMap_nil, List.append_assoc, List.append_nil]

/-- The least positive number of the narrow format has no leading bit there and has one in the wide
format. -/
theorem least_subnormal_agrees :
    Agree 0x00000001 0x36A0000000000000 ∧ ∃ s : String,
      (Layer.fresh 2).Shows ⟨.onF32ConstExpr, .cons 0x00000001 .nil⟩
        ("OnF32ConstExpr(" ++ s ++ " (0x1))") ∧
      (Layer.fresh 2).Shows ⟨.onF64ConstExpr, .cons 0x36A0000000000000 .nil⟩
        ("OnF64ConstExpr(" ++ s ++ " (0x36a0000000000000))") ∧
      read? s = some (sixFigures (2 ^ (-149 : ℤ))) := by
  have hpos : (0 : ℚ) < 2 ^ (-149 : ℤ) := by positivity
  have hnarrow : number? 0x00000001 = some (2 ^ (-149 : ℤ)) := by
    have hsign : isNegative 0x00000001 = false := by decide
    have hexponent : exponentField 0x00000001 = 0 := by decide
    have hfraction : fractionField 0x00000001 = 1 := by decide
    simp [number?, sign, hsign, hexponent, hfraction]
  have hwide : Binary64.number? 0x36A0000000000000 = some (2 ^ (-149 : ℤ)) := by
    have hsign : Binary64.isNegative 0x36A0000000000000 = false := by decide
    have hexponent : Binary64.exponentField 0x36A0000000000000 = 874 := by decide
    have hfraction : Binary64.fractionField 0x36A0000000000000 = 0 := by decide
    rw [Binary64.number?, Binary64.sign, hsign, hexponent, hfraction]
    norm_num
  have hagree : Agree 0x00000001 0x36A0000000000000 := .number hpos.ne' hnarrow hwide
  obtain ⟨-, h⟩ := constants_agree 0x00000001
  obtain ⟨s, h32, -, h64, -, hread⟩ := h _ hagree (Layer.fresh 2) 0
  have htail32 : " (0x" ++ (hex (0x00000001 : UInt32).toNat ++ "))") = " (0x1))" := by decide
  have htail64 : " (0x" ++ (hex (0x36A0000000000000 : UInt64).toNat ++ "))") =
      " (0x36a0000000000000))" := by decide
  rw [String.append_assoc, String.append_assoc, htail32] at h32
  rw [String.append_assoc, String.append_assoc, htail64] at h64
  refine ⟨hagree, s, h32, h64, ?_⟩
  rw [hread, hnarrow, Option.map_some, if_neg hpos.not_gt, abs_of_pos hpos]

end Binary32

end WasmTrace
