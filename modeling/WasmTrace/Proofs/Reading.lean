import Mathlib.Data.List.TakeWhile
import WasmTrace.Proofs.SixFigures

/-!
# Numerals read back

A decimal numeral is read as the rational that it denotes: digits, perhaps with a point among them,
perhaps with a sign in front and an explicit exponent behind.

The main statement is `Decimal.Scientific.readUnsigned?_chars`: the text of six figures denotes the
number that they stand for, in either notation.  Zeros that end a fraction are dropped without
changing what the numeral denotes, as `Decimal.Positional.toRat_trimmed` shows.
-/

namespace WasmTrace

namespace Numeral

/-- The natural number that a numeral of digits denotes. -/
def readNat? (cs : List Char) : Option ℕ :=
  if cs ≠ [] ∧ cs.all Char.isDigit = true then some (Nat.ofDigitChars 10 cs 0) else none

/-- The integer that digits with or without a sign denote. -/
def readInt? : List Char → Option ℤ
  | '-' :: cs => (readNat? cs).map fun n : ℕ => -(n : ℤ)
  | '+' :: cs => (readNat? cs).map fun n : ℕ => (n : ℤ)
  | cs => (readNat? cs).map fun n : ℕ => (n : ℤ)

/-- The number that digits with or without a point denote. -/
def readPositional? (cs : List Char) : Option ℚ :=
  match cs.splitOn '.' with
  | [whole] => (readNat? whole).map fun n : ℕ => (n : ℚ)
  | [whole, fraction] =>
    (readNat? whole).bind fun m : ℕ =>
      (readNat? fraction).map fun n : ℕ => (m : ℚ) + n / 10 ^ fraction.length
  | _ => none

/-- The number that a numeral without a sign denotes, with or without an explicit exponent. -/
def readUnsigned? (cs : List Char) : Option ℚ :=
  match cs.splitOn 'e' with
  | [mantissa] => readPositional? mantissa
  | [mantissa, exponent] =>
    (readPositional? mantissa).bind fun m : ℚ =>
      (readInt? exponent).map fun e : ℤ => m * 10 ^ e
  | _ => none

/-- The number that a decimal numeral denotes. -/
def read? (s : String) : Option ℚ :=
  match s.toList with
  | '-' :: cs => (readUnsigned? cs).map fun x => -x
  | cs => readUnsigned? cs

lemma readNat?_of_isDigit {cs : List Char} (hne : cs ≠ []) (h : ∀ c ∈ cs, c.isDigit = true) :
    readNat? cs = some (Nat.ofDigitChars 10 cs 0) := if_pos ⟨hne, List.all_eq_true.mpr h⟩

lemma isDigit_toDigits (n : ℕ) : ∀ c ∈ Nat.toDigits 10 n, c.isDigit = true := fun _ hc =>
  Nat.isDigit_of_mem_toDigits (by decide) (by decide) hc

lemma isDigit_lastDigits (width n : ℕ) : ∀ c ∈ lastDigits width n, c.isDigit = true := by
  induction width generalizing n with
  | zero => exact fun _ hc => absurd hc List.not_mem_nil
  | succ width ih =>
    intro c hc
    rw [lastDigits, List.mem_append, List.mem_singleton] at hc
    rcases hc with hc | rfl
    · exact ih (n / 10) c hc
    · rw [Nat.isDigit_digitChar]
      exact decide_eq_true (Nat.mod_lt n (by decide))

/-- What is no digit does not occur among digits. -/
lemma not_mem_of_isDigit {cs : List Char} (h : ∀ c ∈ cs, c.isDigit = true) {c : Char}
    (hc : c.isDigit = false) : c ∉ cs := fun hmem =>
  Bool.false_ne_true (hc.symm.trans (h c hmem))

/-- The last digits of a number denote the rest at that power of ten. -/
lemma ofDigitChars_lastDigits (width n : ℕ) :
    Nat.ofDigitChars 10 (lastDigits width n) 0 = n % 10 ^ width := by
  induction width generalizing n with
  | zero => rw [lastDigits, Nat.ofDigitChars_nil, pow_zero, Nat.mod_one]
  | succ width ih =>
    rw [lastDigits, Nat.ofDigitChars_append, ih, Nat.ofDigitChars_cons, Nat.ofDigitChars_nil,
      pow_succ', Nat.mod_mul]
    have hdigit : (n % 10).digitChar.toNat - '0'.toNat = n % 10 :=
      Nat.toNat_digitChar_sub_48_of_lt_ten (Nat.mod_lt n (by decide))
    rw [hdigit, Nat.add_comm]

end Numeral

namespace Decimal

open Numeral

namespace Positional

/-- The digits of a numeral are digits, and there are some in front of the point. -/
structure Wf (p : Positional) : Prop where
  /-- There are digits in front of the point. -/
  whole_ne_nil : p.whole ≠ []
  /-- They are digits. -/
  isDigit_whole : ∀ c ∈ p.whole, c.isDigit = true
  /-- What stands after the point are digits. -/
  isDigit_fraction : ∀ c ∈ p.fraction, c.isDigit = true

/-- The number that the digits on both sides of the point denote. -/
def toRat (p : Positional) : ℚ :=
  Nat.ofDigitChars 10 p.whole 0 + Nat.ofDigitChars 10 p.fraction 0 / 10 ^ p.fraction.length

lemma wf_ofUnits (places n : ℕ) : (ofUnits places n).Wf where
  whole_ne_nil := Nat.toDigits_ne_nil
  isDigit_whole := isDigit_toDigits _
  isDigit_fraction := isDigit_lastDigits places n

/-- The digits count the units. -/
lemma toRat_ofUnits (places n : ℕ) : (ofUnits places n).toRat = n / 10 ^ places := by
  have hpos : (0 : ℚ) < 10 ^ places := pow_pos (by norm_num) _
  have hunits : ((10 ^ places * (n / 10 ^ places) + n % 10 ^ places : ℕ) : ℚ) = n := by
    rw [Nat.div_add_mod]
  rw [toRat, ofUnits, ofDigitChars_lastDigits, length_lastDigits, Nat.ofDigitChars_ten_toDigits,
    Nat.pow_eq, eq_div_iff hpos.ne', add_mul, div_mul_cancel₀ _ hpos.ne', ← hunits]
  push_cast
  ring

@[simp]
lemma whole_trimmed (p : Positional) : p.trimmed.whole = p.whole := rfl

/-- What is dropped from a fraction are zeros. -/
lemma exists_fraction_eq (p : Positional) :
    ∃ count, p.fraction = p.trimmed.fraction ++ List.replicate count '0' := by
  have hzeros : p.fraction.reverse.takeWhile (· == '0') =
      List.replicate (p.fraction.reverse.takeWhile (· == '0')).length '0' := by
    refine List.eq_replicate_iff.mpr ⟨rfl, fun c hc => ?_⟩
    exact eq_of_beq (List.mem_takeWhile_imp (p := (· == '0')) hc)
  refine ⟨(p.fraction.reverse.takeWhile (· == '0')).length, ?_⟩
  rw [trimmed, ← List.reverse_replicate, ← hzeros, ← List.reverse_append,
    List.takeWhile_append_dropWhile, List.reverse_reverse]

/-- The zeros that are dropped do not count. -/
lemma toRat_trimmed (p : Positional) : p.trimmed.toRat = p.toRat := by
  obtain ⟨count, hfraction⟩ := p.exists_fraction_eq
  have hpos : (10 : ℚ) ^ count ≠ 0 := pow_ne_zero _ (by norm_num)
  rw [toRat, toRat, whole_trimmed, hfraction, Nat.ofDigitChars_append, Nat.ofDigitChars_replicate_zero,
    List.length_append, List.length_replicate, pow_add, Nat.cast_mul, Nat.cast_pow,
    Nat.cast_ofNat, mul_comm ((10 : ℚ) ^ count), mul_div_mul_right _ _ hpos]

variable {p : Positional}

lemma Wf.trimmed (h : p.Wf) : p.trimmed.Wf where
  whole_ne_nil := h.whole_ne_nil
  isDigit_whole := h.isDigit_whole
  isDigit_fraction := by
    intro c hc
    obtain ⟨count, hfraction⟩ := p.exists_fraction_eq
    refine h.isDigit_fraction c ?_
    rw [hfraction]
    exact List.mem_append_left _ hc

/-- A numeral has digits and perhaps a point, and no other character. -/
lemma Wf.mem_chars (h : p.Wf) {c : Char} (hc : c ∈ p.chars) : c.isDigit = true ∨ c = '.' := by
  unfold chars at hc
  split at hc
  · exact .inl (h.isDigit_whole c hc)
  · rw [List.mem_append, List.mem_cons] at hc
    rcases hc with hwhole | hpoint | hfraction
    · exact .inl (h.isDigit_whole c hwhole)
    · exact .inr hpoint
    · exact .inl (h.isDigit_fraction c hfraction)

lemma Wf.not_mem_chars (h : p.Wf) : 'e' ∉ p.chars := by
  intro hc
  rcases h.mem_chars hc with hdigit | hpoint
  · exact absurd hdigit (by decide)
  · exact absurd hpoint (by decide)

/-- A numeral denotes its number. -/
lemma Wf.readPositional?_chars (h : p.Wf) : readPositional? p.chars = some p.toRat := by
  have hwhole : '.' ∉ p.whole := not_mem_of_isDigit h.isDigit_whole (by decide)
  have hfraction : '.' ∉ p.fraction := not_mem_of_isDigit h.isDigit_fraction (by decide)
  unfold chars
  split
  · next hempty =>
    rw [readPositional?, List.splitOn_eq_singleton hwhole]
    dsimp only
    rw [readNat?_of_isDigit h.whole_ne_nil h.isDigit_whole, Option.map_some, toRat,
      List.isEmpty_iff.mp hempty, Nat.ofDigitChars_nil, Nat.cast_zero, zero_div, add_zero]
  · next hempty =>
    have hne : p.fraction ≠ [] := fun hnil => hempty (List.isEmpty_iff.mpr hnil)
    rw [readPositional?, List.splitOn_append_cons_self_of_not_mem hwhole,
      List.splitOn_eq_singleton hfraction]
    dsimp only
    rw [readNat?_of_isDigit h.whole_ne_nil h.isDigit_whole,
      readNat?_of_isDigit hne h.isDigit_fraction, Option.bind_some, Option.map_some, toRat]

end Positional

/-- An explicit exponent without its mark. -/
def exponentDigits (e : ℤ) : List Char :=
  (if e < 0 then '-' else '+') :: (Nat.toDigits 10 e.natAbs).leftpad exponentWidth '0'

lemma exponentChars_eq (e : ℤ) : exponentChars e = 'e' :: exponentDigits e := rfl

lemma isDigit_leftpad (width n : ℕ) :
    ∀ c ∈ (Nat.toDigits 10 n).leftpad width '0', c.isDigit = true := by
  intro c hc
  rw [List.leftpad, List.mem_append] at hc
  rcases hc with hzero | hdigit
  · rw [List.eq_of_mem_replicate hzero]
    rfl
  · exact isDigit_toDigits n c hdigit

/-- Zeros in front of digits do not count. -/
lemma ofDigitChars_leftpad (width n : ℕ) :
    Nat.ofDigitChars 10 ((Nat.toDigits 10 n).leftpad width '0') 0 = n := by
  rw [List.leftpad, Nat.ofDigitChars_append, Nat.ofDigitChars_replicate_zero, mul_zero,
    Nat.ofDigitChars_ten_toDigits]

lemma not_mem_exponentDigits (e : ℤ) : 'e' ∉ exponentDigits e := by
  intro hmem
  rcases List.mem_cons.mp hmem with hsign | hdigit
  · split at hsign <;> exact absurd hsign (by decide)
  · exact not_mem_of_isDigit (isDigit_leftpad _ _) (by decide) hdigit

/-- An explicit exponent denotes the exponent. -/
lemma readInt?_exponentDigits (e : ℤ) : readInt? (exponentDigits e) = some e := by
  have hread : readNat? ((Nat.toDigits 10 e.natAbs).leftpad exponentWidth '0') =
      some e.natAbs := by
    have hne : (Nat.toDigits 10 e.natAbs).leftpad exponentWidth '0' ≠ [] :=
      List.append_ne_nil_of_right_ne_nil _ Nat.toDigits_ne_nil
    rw [readNat?_of_isDigit hne (isDigit_leftpad _ _), ofDigitChars_leftpad]
  unfold exponentDigits
  split
  · rw [readInt?, hread, Option.map_some]
    congr 1
    omega
  · rw [readInt?, hread, Option.map_some]
    congr 1
    omega

/-- **The text of six figures denotes the number that they stand for.** -/
theorem Scientific.readUnsigned?_chars (s : Scientific) : readUnsigned? s.chars = some s.toRat := by
  have hten : (10 : ℚ) ≠ 0 := by norm_num
  have hwf : ∀ places n, (Positional.ofUnits places n).trimmed.Wf := fun places n =>
    (Positional.wf_ofUnits places n).trimmed
  have hvalue : ∀ places n, (Positional.ofUnits places n).trimmed.toRat = (n : ℚ) / 10 ^ places :=
    fun places n => (Positional.toRat_trimmed _).trans (Positional.toRat_ofUnits places n)
  unfold chars
  split
  · next hpositional =>
    obtain ⟨-, hbelow⟩ := hpositional
    have hplaces : (((fractionPlaces : ℤ) - s.exponent).toNat : ℤ) = 5 - s.exponent := by
      rw [leastExplicit] at hbelow
      rw [fractionPlaces, Int.toNat_of_nonneg (by omega)]
      rfl
    rw [readUnsigned?, List.splitOn_eq_singleton (hwf _ _).not_mem_chars]
    dsimp only
    rw [(hwf _ _).readPositional?_chars, hvalue, toRat, div_eq_mul_inv, ← zpow_natCast, hplaces,
      ← zpow_neg, neg_sub]
  · rw [exponentChars_eq, readUnsigned?,
      List.splitOn_append_cons_self_of_not_mem (hwf _ _).not_mem_chars,
      List.splitOn_eq_singleton (not_mem_exponentDigits s.exponent)]
    dsimp only
    rw [(hwf _ _).readPositional?_chars, readInt?_exponentDigits, hvalue, toRat,
      Option.bind_some, Option.map_some, zpow_sub₀ hten, fractionPlaces, div_mul_eq_mul_div,
      mul_div_assoc]
    rfl

end Decimal

end WasmTrace
