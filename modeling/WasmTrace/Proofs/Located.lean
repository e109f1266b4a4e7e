import Mathlib.Data.String.Basic
import WasmTrace.Proofs.HexDigits
import WasmTrace.Proofs.Legible
import WasmTrace.Values

/-!
# Located problems

The text of a problem that was found at an offset begins with the offset in hexadecimal, padded to
eight digits.  A colon ends the offset and is no digit, so offset and message can be read back,
whatever the message is.  Offsets of eight digits are in the order of their texts; a longer offset
begins with a digit that is compared with the padding of a shorter one, and is not.

The main statement is `ParseError.located_text_faithful`.
-/

namespace WasmTrace

open Bytes (ofText ofText_injective)

namespace ParseError

open Numeral (hexPadded)

/-! ## Offset and message -/

lemma text_located (offset : UInt64) (message : String) :
    (located offset message).text = "0x" ++ hexPadded 8 offset.toNat ++ ": " ++ message := rfl

/-- Offset and message can be read back: the digits end in front of the colon. -/
lemma text_located_inj (o p : UInt64) (m n : String) :
    (located o m).text = (located p n).text ↔ o = p ∧ m = n := by
  constructor
  · intro h
    have hplain : ∀ o : UInt64, ∀ b ∈ ofText (hexPadded 8 o.toNat), Bytes.isPlain b = true :=
      fun o => (Numeral.plain_hexPadded 8 o.toNat).isPlain
    rw [text_located, text_located, String.append_assoc, String.append_assoc, String.append_assoc,
      String.append_assoc, String.append_right_inj] at h
    have hbytes := congrArg ofText h
    simp only [Bytes.ofText_append] at hbytes
    have hdigits : ofText (hexPadded 8 o.toNat) = ofText (hexPadded 8 p.toNat) :=
      run_append_inj (by decide) (hplain o) (hplain p) hbytes
    rw [hdigits] at hbytes
    have hmessage := List.append_cancel_left (List.append_cancel_left hbytes)
    refine ⟨UInt64.toNat_inj.mp ?_, ofText_injective hmessage⟩
    exact Numeral.hexPadded_injective 8 (ofText_injective hdigits)
  · rintro ⟨rfl, rfl⟩
    rfl

/-! ## The order of offsets -/

/-- A digit is encoded in one byte. -/
lemma utf8EncodeChar_digitChar : ∀ i < 16,
    String.utf8EncodeChar i.digitChar = [i.digitChar.toUInt8] := by decide

/-- A numeral as bytes: those of its digits. -/
lemma ofText_hexPadded (n : Nat) :
    ofText (hexPadded 8 n) = (hexPadded 8 n).toList.map Char.toUInt8 := by
  rw [Bytes.ofText, List.map_eq_flatMap]
  refine List.flatMap_congr fun c hc => ?_
  rw [Numeral.toList_hexPadded (by decide)] at hc
  obtain ⟨i, hi, rfl⟩ := Numeral.exists_of_mem_hexDigits hc
  exact utf8EncodeChar_digitChar i hi

variable {o p : UInt64}

/-- Problems at offsets of eight digits are in the order of the offsets, character by character. -/
lemma text_located_lt_iff (ho : o.toNat < 2 ^ 32) (hp : p.toNat < 2 ^ 32) (m : String) :
    (located o m).text < (located p m).text ↔ o < p := by
  have hchars : ∀ o : UInt64, (located o m).text.toList =
      "0x".toList ++ ((hexPadded 8 o.toNat).toList.map id ++ (": " ++ m).toList) := by
    intro o
    rw [text_located, List.map_id]
    simp only [String.toList_append, List.append_assoc]
  rw [String.lt_iff_toList_lt, hchars, hchars]
  exact Numeral.map_hexPadded_lt_iff (by decide) (by decide) ho hp _ _

/-- They are in the same order byte by byte. -/
lemma ofText_located_lt_iff (ho : o.toNat < 2 ^ 32) (hp : p.toNat < 2 ^ 32) (m : String) :
    ofText (located o m).text < ofText (located p m).text ↔ o < p := by
  have hbytes : ∀ o : UInt64, ofText (located o m).text =
      ofText "0x" ++ ((hexPadded 8 o.toNat).toList.map Char.toUInt8 ++ ofText (": " ++ m)) := by
    intro o
    rw [text_located, ← ofText_hexPadded]
    simp only [Bytes.ofText_append, List.append_assoc]
  rw [hbytes, hbytes]
  exact Numeral.map_hexPadded_lt_iff (by decide) (by decide) ho hp _ _

/-- **A problem found at an offset tells where and what.**  Its text is "0x", the offset as a
hexadecimal numeral of at least eight digits, a colon, a space and the message as it is; there are
more than eight digits exactly if the offset needs more.  Hence equal texts have equal offsets and
equal messages, and texts with the same message at offsets of eight digits are in the order of the
offsets, whether they are compared by characters or by bytes. -/
theorem located_text_faithful :
    (∀ (o : UInt64) (m : String), ∃ digits : String,
      (located o m).text = "0x" ++ digits ++ ": " ++ m ∧
      Numeral.IsPaddedHex 8 o.toNat digits ∧ (8 < digits.length ↔ 2 ^ 32 ≤ o.toNat)) ∧
    (∀ (o p : UInt64) (m n : String),
      (located o m).text = (located p n).text ↔ o = p ∧ m = n) ∧
    ∀ (o p : UInt64) (m : String), o.toNat < 2 ^ 32 → p.toNat < 2 ^ 32 →
      ((located o m).text < (located p m).text ↔ o < p) ∧
      (ofText (located o m).text < ofText (located p m).text ↔ o < p) := by
  refine ⟨fun o m => ?_, text_located_inj, fun o p m ho hp => ?_⟩
  · exact ⟨hexPadded 8 o.toNat, text_located o m,
      Numeral.isPaddedHex_hexPadded (by decide) o.toNat,
      Numeral.width_lt_length_hexPadded_iff (by decide) o.toNat⟩
  · exact ⟨text_located_lt_iff ho hp m, ofText_located_lt_iff ho hp m⟩

/-- Digits that are letters come after those that are not, and zeros in front count. -/
theorem located_at_nine_and_ten :
    (0x9 : UInt64).toNat < 2 ^ 32 ∧ (0xa : UInt64).toNat < 2 ^ 32 ∧
      (located 0x9 "bad: 0xff").text < (located 0xa "bad: 0xff").text ∧
      ¬(located 0xa "bad: 0xff").text < (located 0x9 "bad: 0xff").text := by
  have hnine : (0x9 : UInt64).toNat < 2 ^ 32 := by decide
  have hten : (0xa : UInt64).toNat < 2 ^ 32 := by decide
  refine ⟨hnine, hten, ?_, ?_⟩
  · exact (located_text_faithful.2.2 0x9 0xa "bad: 0xff" hnine hten).1.mpr (by decide)
  · rw [(located_text_faithful.2.2 0xa 0x9 "bad: 0xff" hten hnine).1]
    decide

end ParseError

end WasmTrace
