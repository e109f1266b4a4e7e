import Mathlib.Data.List.DropRight
import WasmTrace.Proofs.CanonicalForm
import WasmTrace.Text

/-!
# Texts in scratch space

While a number is brought into its form, its digits stand in scratch space of a fixed number of
bytes.  A text arrives there in parts, however its renderer cuts it, and a part that does not fit is
refused.  `Scratch.through?_eq` says that the parts make no difference: a text comes through if it
fits as a whole.

From there the text is taken apart: at the mark of the exponent, into digits and an integer, and the
zeros at its end are dropped.  The main statements are `Numeral.readInt32?_signed` and
`Decimal.Positional.Wf.trimZeros_chars`, by which this gives back what was written.
-/

namespace WasmTrace

/-! ## Bytes of characters -/

/-- The number of bytes that characters take up. -/
def byteCount (cs : List Char) : ℕ := (Bytes.ofText (String.ofList cs)).length

lemma byteCount_append (cs ds : List Char) : byteCount (cs ++ ds) = byteCount cs + byteCount ds := by
  rw [byteCount, String.ofList_append, Bytes.ofText_append, List.length_append]
  rfl

/-- A character of one byte takes up one byte. -/
lemma byteCount_cons {c : Char} (hc : c.val ≤ 127) (cs : List Char) :
    byteCount (c :: cs) = byteCount cs + 1 := by
  have hsingle : byteCount [c] = 1 := by
    rw [byteCount, Bytes.ofText_ofList, List.flatMap_singleton, String.length_utf8EncodeChar]
    exact Char.utf8Size_eq_one_iff.mpr hc
  rw [← List.singleton_append, byteCount_append, hsingle, Nat.add_comm]

/-- A digit is a character of one byte. -/
lemma val_le_of_isDigit {c : Char} (h : c.isDigit = true) : c.val ≤ 127 := by
  rw [Char.isDigit, Bool.and_eq_true, decide_eq_true_eq, decide_eq_true_eq] at h
  exact UInt32.le_trans h.2 (by decide)

/-- Digits take up as many bytes as there are digits. -/
lemma byteCount_of_isDigit {cs : List Char} (h : ∀ c ∈ cs, c.isDigit = true) :
    byteCount cs = cs.length := by
  induction cs with
  | nil => rfl
  | cons c cs ih =>
    rw [byteCount_cons (val_le_of_isDigit (h c List.mem_cons_self)),
      ih fun d hd => h d (List.mem_cons_of_mem c hd), List.length_cons]

/-! ## Scratch space -/

/-- The bytes of scratch space. -/
def Scratch.capacity : ℕ := 32

/-- A text in scratch space.  It is written in whole parts, so it is a text at all times. -/
structure Scratch where
  /-- The text. -/
  chars : List Char
  /-- It fits. -/
  fits : byteCount chars ≤ Scratch.capacity

/-- A way in which a renderer cuts a text into parts. -/
structure Cut where
  /-- The parts of a text. -/
  parts : List Char → List (List Char)
  /-- They make up the text. -/
  flatten_parts (cs : List Char) : (parts cs).flatten = cs

/-- A text in one part. -/
def Cut.whole : Cut := ⟨fun cs => [cs], fun _ => List.flatten_singleton⟩

namespace Scratch

/-- Scratch space with nothing in it. -/
def empty : Scratch := ⟨[], Nat.zero_le _⟩

/-- Writes one more part, unless it does not fit. -/
def write? (s : Scratch) (part : List Char) : Option Scratch :=
  if h : byteCount (s.chars ++ part) ≤ capacity then some ⟨s.chars ++ part, h⟩ else none

/-- Writes several parts, up to the first one that does not fit. -/
def writeAll? (s : Scratch) : List (List Char) → Option Scratch
  | [] => some s
  | part :: parts => (s.write? part).bind (·.writeAll? parts)

/-- What can be read after a text was written in parts. -/
def through? (cut : Cut) (cs : List Char) : Option (List Char) :=
  (empty.writeAll? (cut.parts cs)).map chars

/-- Parts are written exactly if they fit together. -/
lemma map_chars_writeAll? (s : Scratch) (parts : List (List Char)) :
    (s.writeAll? parts).map chars =
      if byteCount (s.chars ++ parts.flatten) ≤ capacity then some (s.chars ++ parts.flatten)
      else none := by
  induction parts generalizing s with
  | nil =>
    rw [writeAll?, List.flatten_nil, List.append_nil, if_pos s.fits, Option.map_some]
  | cons part parts ih =>
    rw [writeAll?, write?, List.flatten_cons, ← List.append_assoc]
    split
    · next h => exact ih ⟨s.chars ++ part, h⟩
    · next h =>
      rw [if_neg, Option.bind_none, Option.map_none]
      rw [byteCount_append]
      omega

/-- **A text comes through scratch space exactly if it fits**, however it is cut. -/
theorem through?_eq (cut : Cut) (cs : List Char) :
    through? cut cs = if byteCount cs ≤ capacity then some cs else none := by
  rw [through?, map_chars_writeAll?, cut.flatten_parts]
  rfl

lemma through?_of_le (cut : Cut) {cs : List Char} (h : byteCount cs ≤ capacity) :
    through? cut cs = some cs := by
  rw [through?_eq, if_pos h]

end Scratch

/-! ## Taking a numeral apart -/

/-- What stands in front of the first one of some characters, and what stands behind it. -/
def splitOnce? (mark : Char) (cs : List Char) : Option (List Char × List Char) :=
  match cs.dropWhile (· != mark) with
  | [] => none
  | _ :: rest => some (cs.takeWhile (· != mark), rest)

lemma splitOnce?_append {mark : Char} {front : List Char} (h : mark ∉ front) (rest : List Char) :
    splitOnce? mark (front ++ mark :: rest) = some (front, rest) := by
  have hfront : ∀ c ∈ front, (c != mark) = true := fun c hc =>
    bne_iff_ne.mpr (ne_of_mem_of_not_mem hc h)
  have hmark : ¬(mark != mark) = true := by
    rw [bne_self_eq_false]
    exact Bool.false_ne_true
  rw [splitOnce?, List.dropWhile_append_of_pos hfront,
    List.dropWhile_cons_of_neg (p := (· != mark)) hmark, List.takeWhile_append_of_pos hfront,
    List.takeWhile_cons_of_neg (p := (· != mark)) hmark, List.append_nil]

namespace Numeral

/-- The integer that digits with or without a sign denote, if it is one of 32 bits. -/
def readInt32? (cs : List Char) : Option ℤ :=
  (readInt? cs).filter fun e => Int32.minValue.toInt ≤ e ∧ e ≤ Int32.maxValue.toInt

/-- The sign in front of a number. -/
def minus (negative : Bool) : List Char := if negative then ['-'] else []

lemma byteCount_minus_le (negative : Bool) : byteCount (minus negative) ≤ 1 := by
  cases negative <;> decide

lemma not_mem_minus {c : Char} (hc : c ≠ '-') (negative : Bool) : c ∉ minus negative := by
  cases negative with
  | true => exact fun hmem => hc (List.mem_singleton.mp hmem)
  | false => exact List.not_mem_nil

/-- The numeral of an integer has a minus sign or none in front of its digits. -/
lemma toList_signed (e : ℤ) :
    (signed e).toList = minus (decide (e < 0)) ++ Nat.toDigits 10 e.natAbs := by
  unfold signed
  split
  · next hbelow =>
    rw [decide_eq_true hbelow, String.toList_append]
    exact congrArg _ String.toList_ofList
  · next habove =>
    rw [decide_eq_false habove]
    exact String.toList_ofList

/-- It denotes the integer. -/
lemma readInt?_signed (e : ℤ) : readInt? (signed e).toList = some e := by
  have hread : readNat? (Nat.toDigits 10 e.natAbs) = some e.natAbs := by
    rw [readNat?_of_isDigit Nat.toDigits_ne_nil (isDigit_toDigits _),
      Nat.ofDigitChars_ten_toDigits]
  rw [toList_signed]
  by_cases hbelow : e < 0
  · rw [decide_eq_true hbelow]
    change (readNat? (Nat.toDigits 10 e.natAbs)).map _ = _
    rw [hread, Option.map_some]
    congr 1
    omega
  · have hsign : ∀ {c : Char} {rest : List Char}, Nat.toDigits 10 e.natAbs = c :: rest →
        c.isDigit ≠ false := fun heq hc =>
      not_mem_of_isDigit (isDigit_toDigits _) hc (heq ▸ List.mem_cons_self)
    rw [decide_eq_false hbelow]
    change readInt? (Nat.toDigits 10 e.natAbs) = _
    unfold readInt?
    -- a numeral of digits does not begin with a sign
    split
    · next rest heq => exact absurd (by decide) (hsign heq)
    · next rest heq => exact absurd (by decide) (hsign heq)
    · rw [hread, Option.map_some]
      congr 1
      omega

/-- It is read back if it is one of 32 bits. -/
lemma readInt32?_signed {e : ℤ} (hleast : Int32.minValue.toInt ≤ e)
    (hgreatest : e ≤ Int32.maxValue.toInt) : readInt32? (signed e).toList = some e := by
  rw [readInt32?, readInt?_signed, Option.filter_some, if_pos (decide_eq_true ⟨hleast, hgreatest⟩)]

/-- A numeral without the zeros at the end of its fraction, and without a point that nothing
follows.  A numeral without a point is kept whole. -/
def trimZeros (cs : List Char) : List Char :=
  if '.' ∈ cs then (cs.rdropWhile (· == '0')).rdropWhile (· == '.') else cs

end Numeral

/-- Nothing is dropped if the last character is another one. -/
lemma rdropWhile_of_getLast? {c : Char} {cs : List Char} (h : cs.getLast? ≠ some c) :
    cs.rdropWhile (· == c) = cs := by
  refine List.rdropWhile_eq_self_iff.mpr fun hne hlast => h ?_
  rw [List.getLast?_eq_some_getLast hne, eq_of_beq hlast]

/-- Characters at the end are dropped. -/
lemma rdropWhile_append_replicate (c : Char) (cs : List Char) (count : ℕ) :
    (cs ++ List.replicate count c).rdropWhile (· == c) = cs.rdropWhile (· == c) := by
  induction count with
  | zero => rw [List.replicate_zero, List.append_nil]
  | succ count ih =>
    rw [List.replicate_succ', ← List.append_assoc,
      List.rdropWhile_concat_pos (· == c) _ _ (beq_self_eq_true c), ih]

namespace Decimal

open Numeral

/-- **Dropping zeros from the text of a numeral trims the numeral**, whatever stands in front. -/
theorem Positional.Wf.trimZeros_chars {p : Positional} (hp : p.Wf) {front : List Char}
    (hfront : '.' ∉ front) : trimZeros (front ++ p.chars) = front ++ p.trimmed.chars := by
  have hwhole : '.' ∉ front ++ p.whole := by
    rw [List.mem_append, not_or]
    exact ⟨hfront, not_mem_of_isDigit hp.isDigit_whole (by decide)⟩
  obtain ⟨count, hfraction⟩ := p.exists_fraction_eq
  rw [chars_eq_pointed, chars_eq_pointed, whole_trimmed]
  by_cases hnone : p.fraction = []
  · have hnil : p.trimmed.fraction = [] := by
      rw [hnone] at hfraction
      exact (List.append_eq_nil_iff.mp hfraction.symm).1
    rw [pointed, if_pos hnone, pointed, if_pos hnil, trimZeros, if_neg hwhole]
  · -- first the zeros at the end go, then the point if nothing is left behind it
    have htext : front ++ pointed p.whole p.fraction =
        (front ++ p.whole ++ '.' :: p.trimmed.fraction) ++ List.replicate count '0' := by
      rw [pointed, if_neg hnone, hfraction, ← List.cons_append, ← List.append_assoc,
        ← List.append_assoc]
    have hmem : '.' ∈ front ++ pointed p.whole p.fraction := by
      rw [pointed, if_neg hnone]
      exact List.mem_append_right _ (List.mem_append_right _ List.mem_cons_self)
    have hlast : (front ++ p.whole ++ '.' :: p.trimmed.fraction).getLast? ≠ some '0' := by
      rw [List.getLast?_append_cons, List.getLast?_cons]
      cases hfractionLast : p.trimmed.fraction.getLast? with
      | none => decide
      | some c => exact fun hzero => p.getLast_trimmed (hfractionLast.trans hzero)
    rw [trimZeros, if_pos hmem, htext, rdropWhile_append_replicate, rdropWhile_of_getLast? hlast]
    by_cases hnil : p.trimmed.fraction = []
    · rw [hnil, List.rdropWhile_concat_pos (· == '.') _ _ (beq_self_eq_true '.'), pointed, if_pos rfl]
      exact rdropWhile_of_getLast? fun hdot => hwhole (List.mem_of_getLast? hdot)
    · have hdigits : '.' ∉ p.trimmed.fraction :=
        not_mem_of_isDigit hp.trimmed.isDigit_fraction (by decide)
      rw [pointed, if_neg hnil, ← List.append_assoc]
      refine rdropWhile_of_getLast? fun hdot => hdigits ?_
      rw [List.getLast?_append_cons, List.getLast?_cons_of_ne_nil hnil] at hdot
      exact List.mem_of_getLast? hdot

end Decimal

end WasmTrace
