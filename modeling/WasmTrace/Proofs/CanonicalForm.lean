import WasmTrace.Proofs.Numerals
import WasmTrace.Proofs.Reading

/-!
# The form of a numeral

A number with six significant figures is written in one of two notations, by the exponent of its
first figure.  In neither of them is there a digit that could be left out: no superfluous zeros in
front, none at the end of a fraction, and no point without a fraction.

The main statement is `Decimal.Scientific.canonical_chars`.
-/

namespace WasmTrace

namespace Decimal

open Numeral

/-! ## The two notations -/

/-- Digits with a point and further digits, or without a point if there are no further digits. -/
def pointed (whole fraction : List Char) : List Char :=
  if fraction = [] then whole else whole ++ '.' :: fraction

/-- The parts of a numeral in fixed notation. -/
structure IsFixed (whole fraction : List Char) : Prop where
  /-- There are digits in front of the point. -/
  whole_ne_nil : whole ≠ []
  /-- They are digits. -/
  isDigit_whole : ∀ c ∈ whole, c.isDigit = true
  /-- They do not begin with a zero, except for a zero alone. -/
  head_whole : 1 < whole.length → whole.head? ≠ some '0'
  /-- What stands after the point are digits. -/
  isDigit_fraction : ∀ c ∈ fraction, c.isDigit = true
  /-- They do not end with a zero. -/
  getLast_fraction : fraction.getLast? ≠ some '0'
  /-- From the first digit on that is not zero, there are at most six. -/
  significant : ((whole ++ fraction).dropWhile (· == '0')).length ≤ 6

/-- The parts of a numeral with an explicit exponent. -/
structure IsExplicit (lead : Char) (fraction exponent : List Char) : Prop where
  /-- There is one digit in front of the point. -/
  isDigit_lead : lead.isDigit = true
  /-- It is not zero. -/
  lead_ne_zero : lead ≠ '0'
  /-- What stands after the point are digits. -/
  isDigit_fraction : ∀ c ∈ fraction, c.isDigit = true
  /-- They do not end with a zero. -/
  getLast_fraction : fraction.getLast? ≠ some '0'
  /-- There are at most six digits. -/
  significant : (lead :: fraction).length ≤ 6
  /-- The exponent has digits. -/
  isDigit_exponent : ∀ c ∈ exponent, c.isDigit = true
  /-- There are at least two of them. -/
  two_le_length : 2 ≤ exponent.length
  /-- If there are more, they do not begin with a zero. -/
  head_exponent : 2 < exponent.length → exponent.head? ≠ some '0'

/-- The form of a numeral with at most six significant digits, by the exponent of the first one. -/
inductive Canonical (e : ℤ) : List Char → Prop where
  /-- From `-4` to `5`, in fixed notation. -/
  | fixed {whole fraction : List Char} (hleast : -4 ≤ e) (hgreatest : e < 6)
    (h : IsFixed whole fraction) : Canonical e (pointed whole fraction)
  /-- Otherwise with an explicit exponent, which has a sign always. -/
  | explicit {lead : Char} {fraction exponent : List Char} (he : e < -4 ∨ 6 ≤ e)
    (h : IsExplicit lead fraction exponent) (hvalue : Nat.ofDigitChars 10 exponent 0 = e.natAbs) :
    Canonical e (pointed [lead] fraction ++ 'e' :: (if e < 0 then '-' else '+') :: exponent)

/-- Only a numeral with an explicit exponent has the mark of an exponent. -/
lemma Canonical.mem_iff {e : ℤ} {cs : List Char} (h : Canonical e cs) :
    'e' ∈ cs ↔ e < -4 ∨ 6 ≤ e := by
  have hpointed : ∀ whole fraction : List Char, (∀ c ∈ whole, c.isDigit = true) →
      (∀ c ∈ fraction, c.isDigit = true) → 'e' ∉ pointed whole fraction := by
    intro whole fraction hwhole hfraction hmem
    unfold pointed at hmem
    split at hmem
    · exact not_mem_of_isDigit hwhole (by decide) hmem
    · rw [List.mem_append, List.mem_cons] at hmem
      rcases hmem with hmem | hmem | hmem
      · exact not_mem_of_isDigit hwhole (by decide) hmem
      · exact absurd hmem (by decide)
      · exact not_mem_of_isDigit hfraction (by decide) hmem
  cases h with
  | fixed hleast hgreatest h =>
    refine iff_of_false (hpointed _ _ h.isDigit_whole h.isDigit_fraction) ?_
    omega
  | explicit he h hvalue =>
    exact iff_of_true (List.mem_append_right _ List.mem_cons_self) he

/-- A numeral begins with a digit. -/
lemma Canonical.exists_cons {e : ℤ} {cs : List Char} (h : Canonical e cs) :
    ∃ c rest, cs = c :: rest ∧ c.isDigit = true := by
  have hpointed : ∀ (c : Char) (whole fraction : List Char),
      ∃ rest, pointed (c :: whole) fraction = c :: rest := by
    intro c whole fraction
    unfold pointed
    split
    · exact ⟨whole, rfl⟩
    · exact ⟨whole ++ '.' :: fraction, rfl⟩
  cases h with
  | @fixed whole fraction hleast hgreatest h =>
    obtain ⟨c, others, rfl⟩ := List.exists_cons_of_ne_nil h.whole_ne_nil
    obtain ⟨rest, hrest⟩ := hpointed c others fraction
    exact ⟨c, rest, hrest, h.isDigit_whole c List.mem_cons_self⟩
  | @explicit lead fraction exponent he h hvalue =>
    obtain ⟨rest, hrest⟩ := hpointed lead [] fraction
    rw [hrest]
    exact ⟨lead, _, rfl, h.isDigit_lead⟩

/-! ## Figures on both sides of the point -/

/-- **Without the zeros in front, the digits on both sides of the point are those of the units.** -/
lemma Positional.dropWhile_ofUnits (places n : ℕ) :
    ((ofUnits places n).whole ++ (ofUnits places n).fraction).dropWhile (· == '0') =
      if n = 0 then [] else Nat.toDigits 10 n := by
  have hzero : (Nat.toDigits 10 0).dropWhile (· == '0') = [] := by decide
  change (Nat.toDigits 10 (n / 10 ^ places) ++ lastDigits places n).dropWhile (· == '0') = _
  induction places generalizing n with
  | zero =>
    rw [pow_zero, Nat.div_one, lastDigits, List.append_nil]
    have hpad := dropWhile_leftpad_toDigits (by decide : 1 < 10) (by decide) 0 n
    rwa [List.leftpad, Nat.zero_sub, List.replicate_zero, List.nil_append] at hpad
  | succ places ih =>
    -- the last digit is the remainder, and those in front of it are the digits of the quotient
    rw [lastDigits, pow_succ', ← Nat.div_div_eq_div_mul, ← List.append_assoc, List.dropWhile_append,
      ih]
    rcases Nat.lt_or_ge n 10 with hsmall | hlarge
    · rw [Nat.div_eq_of_lt hsmall, if_pos rfl, List.isEmpty_nil, if_pos rfl, Nat.mod_eq_of_lt hsmall,
        Nat.toDigits_of_lt_base hsmall]
      split
      · next hn => rw [hn]; rfl
      · next hn =>
        refine List.dropWhile_cons_of_neg fun hc => hn ?_
        exact (Nat.digitChar_eq_zero).mp (eq_of_beq hc)
    · have hquotient : n / 10 ≠ 0 := (Nat.div_pos hlarge (by decide)).ne'
      have hn : n ≠ 0 := by omega
      rw [if_neg hquotient, if_neg hn, List.isEmpty_eq_false_iff.mpr Nat.toDigits_ne_nil, if_neg
        Bool.false_ne_true, Nat.toDigits_eq_if (n := n) (by decide), if_neg (by omega)]

/-- A fraction without the zeros at its end does not end with one. -/
lemma Positional.getLast_trimmed (p : Positional) : p.trimmed.fraction.getLast? ≠ some '0' := by
  rw [trimmed, List.getLast?_reverse]
  intro hlast
  have hhead := List.head?_dropWhile_not (· == '0') p.fraction.reverse
  rw [hlast] at hhead
  exact absurd hhead (by decide)

lemma Positional.chars_eq_pointed (p : Positional) : p.chars = pointed p.whole p.fraction := by
  unfold chars pointed
  simp only [List.isEmpty_iff]

/-- Dropping zeros at the end leaves no more digits than there were. -/
lemma Positional.length_dropWhile_trimmed_le (p : Positional) :
    ((p.trimmed.whole ++ p.trimmed.fraction).dropWhile (· == '0')).length ≤
      ((p.whole ++ p.fraction).dropWhile (· == '0')).length := by
  obtain ⟨count, hfraction⟩ := p.exists_fraction_eq
  have hdigits : p.whole ++ p.fraction =
      (p.trimmed.whole ++ p.trimmed.fraction) ++ List.replicate count '0' := by
    rw [hfraction, List.append_assoc]
    rfl
  rw [hdigits]
  generalize p.trimmed.whole ++ p.trimmed.fraction = digits
  rw [List.dropWhile_append]
  split
  · next hempty =>
    rw [List.isEmpty_iff.mp hempty]
    exact Nat.zero_le _
  · rw [List.length_append]
    exact Nat.le_add_right _ _

lemma length_toDigits_le_six {n : ℕ} (h : n < 10 ^ 6) : (Nat.toDigits 10 n).length ≤ 6 :=
  (Nat.length_toDigits_le_iff (by decide) (by decide)).mpr h

/-- A number less than a million is written with at most six significant digits. -/
lemma isFixed_ofUnits {n : ℕ} (places : ℕ) (h : n < 10 ^ 6) :
    IsFixed (Positional.ofUnits places n).trimmed.whole
      (Positional.ofUnits places n).trimmed.fraction := by
  have hwf := (Positional.wf_ofUnits places n).trimmed
  refine ⟨hwf.whole_ne_nil, hwf.isDigit_whole, ?_, hwf.isDigit_fraction,
    Positional.getLast_trimmed _, ?_⟩
  · change 1 < (Nat.toDigits 10 (n / 10 ^ places)).length → _
    intro hlength
    refine head?_toDigits_ne_zero (by decide) (by decide) (Nat.pos_of_ne_zero fun hzero => ?_)
    change n / 10 ^ places = 0 at hzero
    rw [hzero] at hlength
    exact absurd hlength (by decide)
  · refine le_trans (Positional.length_dropWhile_trimmed_le _) ?_
    rw [Positional.dropWhile_ofUnits]
    split
    · exact Nat.zero_le _
    · exact length_toDigits_le_six h

/-- An explicit exponent has at least two digits, and no zero in front if it has more. -/
lemma exponent_digits (e : ℕ) :
    2 ≤ ((Nat.toDigits 10 e).leftpad exponentWidth '0').length ∧
      (2 < ((Nat.toDigits 10 e).leftpad exponentWidth '0').length →
        ((Nat.toDigits 10 e).leftpad exponentWidth '0').head? ≠ some '0') := by
  rw [List.length_leftpad, exponentWidth]
  constructor
  · exact le_max_left _ _
  · intro hlength
    have hlong : 2 < (Nat.toDigits 10 e).length := by omega
    have hzeros : 2 - (Nat.toDigits 10 e).length = 0 := by omega
    rw [List.leftpad, hzeros, List.replicate_zero, List.nil_append]
    refine head?_toDigits_ne_zero (by decide) (by decide) (Nat.pos_of_ne_zero ?_)
    rintro rfl
    exact absurd hlong (by decide)

/-- **Six figures are written in the form of their exponent.** -/
theorem Scientific.canonical_chars {s : Scientific} (h : s.IsSix) : Canonical s.exponent s.chars := by
  unfold chars
  split
  · next hpositional =>
    rw [Positional.chars_eq_pointed]
    exact .fixed hpositional.1 hpositional.2 (isFixed_ofUnits _ h.upper)
  · next hexplicit =>
    -- one digit stands in front of the point
    have hlead : 0 < s.digits / 10 ^ 5 ∧ s.digits / 10 ^ 5 < 10 := by
      have hlower := h.lower
      have hupper := h.upper
      omega
    have hwhole : (Positional.ofUnits fractionPlaces s.digits).trimmed.whole =
        [(s.digits / 10 ^ 5).digitChar] := Nat.toDigits_of_lt_base hlead.2
    have hfixed := isFixed_ofUnits fractionPlaces h.upper
    have hne : (s.digits / 10 ^ 5).digitChar ≠ '0' := by
      rw [ne_eq, Nat.digitChar_eq_zero]
      exact hlead.1.ne'
    have hbeq : ¬((s.digits / 10 ^ 5).digitChar == '0') = true := fun hc => hne (eq_of_beq hc)
    have hsignificant := hfixed.significant
    rw [hwhole, List.singleton_append, List.dropWhile_cons, if_neg hbeq] at hsignificant
    obtain ⟨hlength, hhead⟩ := exponent_digits s.exponent.natAbs
    rw [Positional.chars_eq_pointed, hwhole]
    refine .explicit ?_ ?_ (ofDigitChars_leftpad _ _)
    · rw [leastPositional, leastExplicit] at hexplicit
      omega
    · refine ⟨?_, hne, hfixed.isDigit_fraction, hfixed.getLast_fraction, hsignificant,
        isDigit_leftpad _ _, hlength, hhead⟩
      rw [Nat.isDigit_digitChar]
      exact decide_eq_true hlead.2

end Decimal

end WasmTrace
