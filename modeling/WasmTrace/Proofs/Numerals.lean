import Mathlib.Data.List.Basic
import Mathlib.Logic.Function.Basic
import Mathlib.Tactic.Lemma
import WasmTrace.Text

/-!
# Numerals determine their numbers

No two numbers share a numeral, in any of the notations: a numeral without padding has no zero in
front of another digit, which is why padding can be undone, and a sign is no digit.
-/

namespace WasmTrace

/-! ## Digits -/

/-- The digits up to the fifteenth are told apart. -/
lemma digitChar_inj : ∀ m < 16, ∀ n < 16, m.digitChar = n.digitChar → m = n := by decide

/-- A number has one numeral in each base, and a numeral belongs to one number. -/
lemma toDigits_injective {b : Nat} (hb : 1 < b) (hb' : b ≤ 16) :
    Function.Injective (Nat.toDigits b) := by
  intro m
  induction m using Nat.strongRecOn with
  | ind m ih =>
    intro n h
    rw [Nat.toDigits_eq_if hb, Nat.toDigits_eq_if (n := n) hb] at h
    -- the last digit is the remainder, and the digits in front of it are those of the quotient
    split at h
    · next hm =>
      split at h
      · next hn =>
        exact digitChar_inj m (by omega) n (by omega) (List.singleton_inj.mp h)
      · have hlength := congrArg List.length h
        have hpos : 0 < (Nat.toDigits b (n / b)).length := Nat.length_toDigits_pos
        rw [List.length_append, List.length_singleton, List.length_singleton] at hlength
        omega
    · next hm =>
      split at h
      · have hlength := congrArg List.length h
        have hpos : 0 < (Nat.toDigits b (m / b)).length := Nat.length_toDigits_pos
        rw [List.length_append, List.length_singleton, List.length_singleton] at hlength
        omega
      · obtain ⟨hquotient, hlast⟩ := List.append_inj' h rfl
        have hmod : ∀ n, n % b < 16 := fun n =>
          Nat.lt_of_lt_of_le (Nat.mod_lt n (by omega : 0 < b)) hb'
        have hdiv : m / b = n / b := ih _ (Nat.div_lt_self (by omega) hb) hquotient
        have hrest : m % b = n % b :=
          digitChar_inj _ (hmod m) _ (hmod n) (List.singleton_inj.mp hlast)
        rw [← Nat.div_add_mod m b, ← Nat.div_add_mod n b, hdiv, hrest]

/-- The numeral of a positive number does not begin with a zero. -/
lemma head?_toDigits_ne_zero {b : Nat} (hb : 1 < b) (hb' : b ≤ 16) {n : Nat} (hn : 0 < n) :
    (Nat.toDigits b n).head? ≠ some '0' := by
  induction n using Nat.strongRecOn with
  | ind n ih =>
    rw [Nat.toDigits_eq_if hb]
    split
    · rw [List.head?_cons, Option.some_inj.ne, ne_eq, Nat.digitChar_eq_zero]
      exact Nat.ne_of_gt hn
    · next hnb =>
      have hquotient : 0 < n / b := Nat.div_pos (by omega) (by omega)
      rw [List.head?_append_of_ne_nil _ Nat.toDigits_ne_nil]
      exact ih _ (Nat.div_lt_self hn hb) hquotient

/-- Zeros in front of a numeral can be taken off again. -/
lemma dropWhile_leftpad_toDigits {b : Nat} (hb : 1 < b) (hb' : b ≤ 16) (width n : Nat) :
    ((Nat.toDigits b n).leftpad width '0').dropWhile (· == '0') =
      if n = 0 then [] else Nat.toDigits b n := by
  have hzeros : ∀ c ∈ List.replicate (width - (Nat.toDigits b n).length) '0', (c == '0') = true :=
    fun c hc => beq_iff_eq.mpr (List.eq_of_mem_replicate hc)
  rw [List.leftpad, List.dropWhile_append_of_pos hzeros]
  split
  · next hn =>
    rw [hn, Nat.toDigits_zero]
    rfl
  · next hn =>
    have hhead := head?_toDigits_ne_zero hb hb' (Nat.pos_of_ne_zero hn)
    obtain ⟨c, cs, hcs⟩ := List.exists_cons_of_ne_nil (Nat.toDigits_ne_nil (n := n) (b := b))
    rw [hcs, List.head?_cons] at hhead
    rw [hcs, List.dropWhile_cons_of_neg]
    exact fun hc => hhead (congrArg some (eq_of_beq hc))

namespace Numeral

/-! ## The notations -/

lemma decimal_injective : Function.Injective decimal := fun _ _ h =>
  toDigits_injective (by decide) (by decide) (String.ofList_injective h)

lemma hex_injective : Function.Injective hex := fun _ _ h =>
  toDigits_injective (by decide) (by decide) (String.ofList_injective h)

lemma hexPadded_injective (width : Nat) : Function.Injective (hexPadded width) := by
  intro m n h
  have hdigits := congrArg (List.dropWhile (· == '0')) (String.ofList_injective h)
  rw [dropWhile_leftpad_toDigits (by decide) (by decide),
    dropWhile_leftpad_toDigits (by decide) (by decide)] at hdigits
  split at hdigits
  · next hm =>
    split at hdigits
    · next hn => rw [hm, hn]
    · exact absurd hdigits.symm Nat.toDigits_ne_nil
  · split at hdigits
    · exact absurd hdigits Nat.toDigits_ne_nil
    · exact toDigits_injective (by decide) (by decide) hdigits

/-- A minus sign is no digit. -/
lemma minus_not_mem_decimal (n : Nat) : '-' ∉ (decimal n).toList := by
  rw [decimal, String.toList_ofList]
  intro h
  exact absurd (Nat.isDigit_of_mem_toDigits (by decide) (by decide) h) (by decide)

lemma signed_injective : Function.Injective signed := by
  intro i j h
  have hminus : ∀ m n, "-" ++ decimal m ≠ decimal n := by
    intro m n hmn
    refine minus_not_mem_decimal n ?_
    rw [← hmn, String.toList_append]
    exact List.mem_append_left _ (by simp)
  unfold signed at h
  split at h
  · split at h
    · have habs := decimal_injective ((String.append_right_inj _).mp h)
      omega
    · exact absurd h (hminus _ _)
  · split at h
    · exact absurd h.symm (hminus _ _)
    · have habs := decimal_injective h
      omega

end Numeral

end WasmTrace
