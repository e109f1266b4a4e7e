import Mathlib.Algebra.Group.Nat.Defs
import WasmTrace.Proofs.Numerals

/-!
# Hexadecimal digits

A number below a power of sixteen is written with that many digits, zeros in front included.  In a
fixed number of digits, cutting the digits is dividing the number, and the order of the digits is
the order of the numbers.

`Numeral.IsPaddedHex` says what a padded numeral is, without saying how its digits are found.  The
main statements are `Numeral.isPaddedHex_hexPadded`, `Numeral.hexPadded_append` and
`Numeral.map_hexPadded_lt_iff`.
-/

namespace WasmTrace

/-- Lists of one length are in the order of their fronts, whatever follows. -/
lemma append_lt_append {α : Type} [LT α] {a b : List α} (hlength : a.length = b.length)
    (h : a < b) (s t : List α) : a ++ s < b ++ t := by
  induction a generalizing b with
  | nil =>
    rw [List.eq_nil_of_length_eq_zero hlength.symm] at h
    cases h
  | cons x a ih =>
    cases b with
    | nil => cases h
    | cons y b =>
      rw [List.cons_append, List.cons_append, List.cons_lt_cons_iff]
      rw [List.cons_lt_cons_iff] at h
      exact h.imp_right fun ⟨hhead, htail⟩ => ⟨hhead, ih (Nat.succ.inj hlength) htail⟩

namespace Numeral

/-- Whether a character is a hexadecimal digit in lowercase. -/
def isHexDigit (c : Char) : Bool := c.isDigit || ('a' ≤ c && c ≤ 'f')

/-- The number that a hexadecimal digit denotes. -/
def hexValue (c : Char) : Nat :=
  if c.isDigit then c.toNat - '0'.toNat else 10 + (c.toNat - 'a'.toNat)

/-- The number that hexadecimal digits denote. -/
def readHex (cs : List Char) : Nat := cs.foldl (fun n c => 16 * n + hexValue c) 0

/-- A numeral in lowercase hexadecimal, with zeros in front up to a width. -/
structure IsPaddedHex (width n : Nat) (s : String) : Prop where
  /-- It is made of digits. -/
  isHexDigit : ∀ c ∈ s.toList, isHexDigit c = true
  /-- The digits denote the number. -/
  readHex_eq : readHex s.toList = n
  /-- There are not fewer than the width. -/
  width_le : width ≤ s.toList.length
  /-- If there are more, the first one is not zero. -/
  head_ne_zero : width < s.toList.length → s.toList.head? ≠ some '0'

/-! ## A fixed number of digits -/

/-- The last `width` hexadecimal digits of a number, zeros in front included. -/
def hexDigits : Nat → Nat → List Char
  | 0, _ => []
  | width + 1, n => hexDigits width (n / 16) ++ [(n % 16).digitChar]

@[simp]
lemma length_hexDigits (width n : Nat) : (hexDigits width n).length = width := by
  induction width generalizing n with
  | zero => rfl
  | succ width ih => simp [hexDigits, ih]

/-- The digits of zero are zeros. -/
lemma hexDigits_zero (width : Nat) : hexDigits width 0 = List.replicate width '0' := by
  induction width with
  | zero => rfl
  | succ width ih =>
    rw [hexDigits, Nat.zero_div, ih, List.replicate_succ']
    rfl

/-- The digits up to a place are those of the quotient, and then come those of the number. -/
lemma hexDigits_add (front back n : Nat) :
    hexDigits (front + back) n = hexDigits front (n / 16 ^ back) ++ hexDigits back n := by
  induction back generalizing n with
  | zero => simp [hexDigits]
  | succ back ih =>
    rw [← Nat.add_assoc, hexDigits, ih, hexDigits, List.append_assoc, Nat.div_div_eq_div_mul,
      Nat.pow_succ']

/-- The digits in front of a place do not change those behind it. -/
lemma hexDigits_mod (width n : Nat) : hexDigits width (n % 16 ^ width) = hexDigits width n := by
  induction width generalizing n with
  | zero => rfl
  | succ width ih =>
    have hquotient : n % 16 ^ (width + 1) / 16 = n / 16 % 16 ^ width := by
      rw [Nat.pow_succ', Nat.mod_mul_right_div_self]
    have hrest : n % 16 ^ (width + 1) % 16 = n % 16 := by
      rw [Nat.pow_succ', Nat.mod_mul_right_mod]
    rw [hexDigits, hexDigits, hquotient, hrest, ih]

/-- Padding up to a width that is enough gives the digits of that width. -/
lemma leftpad_toDigits {width n : Nat} (hwidth : 0 < width) (h : n < 16 ^ width) :
    (Nat.toDigits 16 n).leftpad width '0' = hexDigits width n := by
  induction width generalizing n with
  | zero => exact absurd hwidth (Nat.lt_irrefl 0)
  | succ width ih =>
    rw [hexDigits]
    rcases Nat.lt_or_ge n 16 with hsmall | hlarge
    · rw [Nat.toDigits_of_lt_base hsmall, Nat.div_eq_of_lt hsmall, Nat.mod_eq_of_lt hsmall,
        hexDigits_zero, List.leftpad, List.length_singleton, Nat.add_sub_cancel]
    · have hquotient : n / 16 < 16 ^ width := by
        rw [Nat.pow_succ] at h
        omega
      have hpos : 0 < width := by
        refine Nat.pos_of_ne_zero ?_
        rintro rfl
        rw [Nat.zero_add, Nat.pow_one] at h
        omega
      rw [Nat.toDigits_of_base_le (by decide) hlarge, ← ih hpos hquotient, List.leftpad,
        List.leftpad, List.length_append, List.length_singleton, Nat.add_sub_add_right,
        List.append_assoc]

/-- A padded numeral has the digits of its own width. -/
lemma toList_hexPadded {width : Nat} (hwidth : 0 < width) (n : Nat) :
    (hexPadded width n).toList = hexDigits (hexPadded width n).toList.length n := by
  have hlt : n < 16 ^ (Nat.toDigits 16 n).length :=
    (Nat.length_toDigits_le_iff (by decide) Nat.length_toDigits_pos).mp Nat.le.refl
  rw [hexPadded_length, hexPadded, String.toList_ofList]
  rcases Nat.le_total (Nat.toDigits 16 n).length width with hle | hle
  · rw [Nat.max_eq_left hle]
    exact leftpad_toDigits hwidth (Nat.lt_of_lt_of_le hlt (Nat.pow_le_pow_right (by decide) hle))
  · rw [Nat.max_eq_right hle, ← leftpad_toDigits Nat.length_toDigits_pos hlt, List.leftpad,
      List.leftpad, Nat.sub_eq_zero_of_le hle, Nat.sub_self]

/-- A padded numeral of a number below the power of its width has exactly that many digits. -/
lemma toList_hexPadded_of_lt {width n : Nat} (hwidth : 0 < width) (h : n < 16 ^ width) :
    (hexPadded width n).toList = hexDigits width n := by
  rw [hexPadded, String.toList_ofList, leftpad_toDigits hwidth h]

/-- A padded numeral is longer than its width exactly if the number has no numeral of that width. -/
lemma width_lt_length_hexPadded_iff {width : Nat} (hwidth : 0 < width) (n : Nat) :
    width < (hexPadded width n).toList.length ↔ 16 ^ width ≤ n := by
  have hle : (Nat.toDigits 16 n).length ≤ width ↔ n < 16 ^ width :=
    Nat.length_toDigits_le_iff (by decide) hwidth
  rw [hexPadded_length]
  omega

/-! ## What the digits denote -/

lemma isHexDigit_digitChar : ∀ i < 16, isHexDigit i.digitChar = true := by decide

lemma hexValue_digitChar : ∀ i < 16, hexValue i.digitChar = i := by decide

lemma exists_of_mem_hexDigits {width n : Nat} {c : Char} (h : c ∈ hexDigits width n) :
    ∃ i < 16, c = i.digitChar := by
  induction width generalizing n with
  | zero => exact absurd h List.not_mem_nil
  | succ width ih =>
    rw [hexDigits, List.mem_append, List.mem_singleton] at h
    rcases h with h | rfl
    · exact ih h
    · exact ⟨n % 16, Nat.mod_lt n (by decide), rfl⟩

/-- The last digits of a number denote the rest at that power of sixteen. -/
lemma readHex_hexDigits (width n : Nat) : readHex (hexDigits width n) = n % 16 ^ width := by
  induction width generalizing n with
  | zero => rw [Nat.pow_zero, Nat.mod_one]; rfl
  | succ width ih =>
    have hfront : (hexDigits width (n / 16)).foldl (fun n c => 16 * n + hexValue c) 0 =
        n / 16 % 16 ^ width := ih (n / 16)
    rw [readHex, hexDigits, List.foldl_append, hfront, List.foldl_cons, List.foldl_nil,
      hexValue_digitChar _ (Nat.mod_lt n (by decide)), Nat.pow_succ', Nat.mod_mul, Nat.add_comm]

/-- **A padded numeral is what it should be**, however many digits the number needs. -/
theorem isPaddedHex_hexPadded {width : Nat} (hwidth : 0 < width) (n : Nat) :
    IsPaddedHex width n (hexPadded width n) := by
  have hdigits := toList_hexPadded hwidth n
  have hlength := hexPadded_length width n
  have hlt : n < 16 ^ (hexPadded width n).toList.length := by
    refine (Nat.length_toDigits_le_iff (by decide) (by omega)).mp ?_
    omega
  refine ⟨?_, ?_, by omega, ?_⟩
  · intro c hc
    rw [hdigits] at hc
    obtain ⟨i, hi, rfl⟩ := exists_of_mem_hexDigits hc
    exact isHexDigit_digitChar i hi
  · rw [hdigits, readHex_hexDigits, Nat.mod_eq_of_lt hlt]
  · intro hlong
    have hle : 16 ^ width ≤ n := (width_lt_length_hexPadded_iff hwidth n).mp hlong
    have hpos : 0 < n := Nat.lt_of_lt_of_le (Nat.pow_pos (by decide)) hle
    have hzeros : width - (Nat.toDigits 16 n).length = 0 := by omega
    rw [hexPadded, String.toList_ofList, List.leftpad, hzeros, List.replicate_zero, List.nil_append]
    exact head?_toDigits_ne_zero (by decide) (by decide) hpos

/-! ## Cutting and comparing -/

/-- **A numeral of two widths is the numerals of quotient and rest.** -/
theorem hexPadded_append {front back n : Nat} (hfront : 0 < front) (hback : 0 < back)
    (h : n < 16 ^ (front + back)) :
    hexPadded (front + back) n =
      hexPadded front (n / 16 ^ back) ++ hexPadded back (n % 16 ^ back) := by
  have hpos : 0 < 16 ^ back := Nat.pow_pos (by decide)
  have hquotient : n / 16 ^ back < 16 ^ front := by
    rw [Nat.pow_add] at h
    exact (Nat.div_lt_iff_lt_mul hpos).mpr h
  rw [← String.toList_inj, String.toList_append, toList_hexPadded_of_lt (by omega) h,
    toList_hexPadded_of_lt hfront hquotient, toList_hexPadded_of_lt hback (Nat.mod_lt n hpos),
    hexDigits_mod, hexDigits_add]

/-- Digits of a greater number are greater, under any reading of the digits that keeps their
order. -/
lemma map_hexDigits_lt {α : Type} [LT α] {f : Char → α}
    (hf : ∀ j < 16, ∀ i < j, f i.digitChar < f j.digitChar) {width m n : Nat} (h : m < n)
    (hn : n < 16 ^ width) : (hexDigits width m).map f < (hexDigits width n).map f := by
  induction width generalizing m n with
  | zero =>
    rw [Nat.pow_zero] at hn
    omega
  | succ width ih =>
    rw [hexDigits, hexDigits, List.map_append, List.map_append]
    -- either the digits in front decide, or they are the same and the last one does
    rcases Nat.lt_or_ge (m / 16) (n / 16) with hquotient | hquotient
    · refine append_lt_append (by simp) (ih hquotient ?_) _ _
      rw [Nat.pow_succ] at hn
      omega
    · have hsame : m / 16 = n / 16 :=
        Nat.le_antisymm (Nat.div_le_div_right (Nat.le_of_lt h)) hquotient
      rw [hsame, List.map_singleton, List.map_singleton]
      refine List.append_left_lt (List.cons_lt_cons_iff.mpr (.inl ?_))
      exact hf _ (Nat.mod_lt n (by decide)) _ (by omega)

/-- **Numerals of one width are in the order of their numbers**, also inside of a text, and under
any reading of the digits that keeps their order. -/
theorem map_hexPadded_lt_iff {α : Type} [LT α] [Std.Asymm fun a b : α => a < b] {f : Char → α}
    (hf : ∀ j < 16, ∀ i < j, f i.digitChar < f j.digitChar) {width m n : Nat} (hwidth : 0 < width)
    (hm : m < 16 ^ width) (hn : n < 16 ^ width) (front back : List α) :
    front ++ ((hexPadded width m).toList.map f ++ back) <
        front ++ ((hexPadded width n).toList.map f ++ back) ↔ m < n := by
  rw [toList_hexPadded_of_lt hwidth hm, toList_hexPadded_of_lt hwidth hn]
  have hlt : ∀ {m n : Nat}, m < n → n < 16 ^ width →
      front ++ ((hexDigits width m).map f ++ back) < front ++ ((hexDigits width n).map f ++ back) :=
    fun h hn =>
      List.append_left_lt (append_lt_append (by simp) (map_hexDigits_lt hf h hn) back back)
  refine ⟨fun h => ?_, fun h => hlt h hn⟩
  rcases Nat.lt_trichotomy m n with hless | rfl | hgreater
  · exact hless
  · exact absurd h (Std.Asymm.asymm _ _ h)
  · exact absurd (hlt hgreater hm) (Std.Asymm.asymm _ _ h)

end Numeral

end WasmTrace
