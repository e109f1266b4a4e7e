import Mathlib.Tactic.Lemma
import WasmTrace.Text.Lossy

/-!
# Reading valid text

Bytes that are the encoding of a text are read as that text: nothing is replaced.  A character of
several bytes passes through the states that its first byte prescribes, and the ranges of the second
byte leave out what no character has.

The main statement is `Lossy.text_ofText`.
-/

namespace WasmTrace

namespace Lossy

/-! ## First bytes -/

/-- A byte below 128 is a character. -/
lemma first_single : ∀ n < 0x80, first (.ofNat n) = (.idle, [Char.ofNat n]) := by
  decide

/-- The first of two bytes. -/
lemma first_double : ∀ n < 30,
    first (.ofNat (0xC2 + n)) = (.inside 0 tailLowest tailHighest (2 + n), []) := by
  decide

/-- The first of three bytes: no longer forms of shorter characters, and no surrogates. -/
lemma first_triple : ∀ n < 0x10,
    first (.ofNat (0xE0 + n)) =
      (.inside 1 (if n = 0 then 0xA0 else tailLowest) (if n = 0xD then 0x9F else tailHighest) n,
        []) := by
  decide

/-- The first of four bytes: no longer forms of shorter characters, and nothing beyond the last
character. -/
lemma first_quadruple : ∀ n < 5,
    first (.ofNat (0xF0 + n)) =
      (.inside 2 (if n = 0 then 0x90 else tailLowest) (if n = 4 then 0x8F else tailHighest) n,
        []) := by
  decide

/-! ## One character -/

namespace State

/-- A byte in the range that a state asks for adds its bits, and the last one completes the
character. -/
lemma step_inside {m : Nat} (hm : m < 64) {lowest highest : UInt8}
    (hlowest : lowest.toNat ≤ m + 128) (hhighest : m + 128 ≤ highest.toNat) (owed scalar : Nat) :
    (inside owed lowest highest scalar).step (.ofNat (m + 128)) =
      match owed with
      | 0 => (.idle, [Char.ofNat (scalar * 64 + m)])
      | owed + 1 => (.inside owed tailLowest tailHighest (scalar * 64 + m), []) := by
  have hbyte : (UInt8.ofNat (m + 128)).toNat = m + 128 := by
    rw [UInt8.toNat_ofNat']
    omega
  have hrange : lowest ≤ .ofNat (m + 128) ∧ .ofNat (m + 128) ≤ highest := by
    rw [UInt8.le_iff_toNat_le, UInt8.le_iff_toNat_le, hbyte]
    exact ⟨hlowest, hhighest⟩
  have hbits : scalar * 64 + ((UInt8.ofNat (m + 128)).toNat - 0x80) = scalar * 64 + m := by
    rw [hbyte, Nat.add_sub_cancel]
  refine (if_pos hrange).trans ?_
  cases owed with
  | zero => exact congrArg (fun bits => (idle, [Char.ofNat bits])) hbits
  | succ owed => exact congrArg (fun bits => (inside owed tailLowest tailHighest bits, [])) hbits

/-- Further bytes after the second one may be anything that continues a character. -/
lemma step_tail {m : Nat} (hm : m < 64) (owed scalar : Nat) :
    (inside owed tailLowest tailHighest scalar).step (.ofNat (m + 128)) =
      match owed with
      | 0 => (.idle, [Char.ofNat (scalar * 64 + m)])
      | owed + 1 => (.inside owed tailLowest tailHighest (scalar * 64 + m), []) := by
  have hlowest : tailLowest.toNat = 128 := rfl
  have hhighest : tailHighest.toNat = 191 := rfl
  exact step_inside hm (by omega) (by omega) owed scalar

variable {v : Nat} (rest : Bytes)

/-- Two bytes. -/
lemma read_double (hlow : 0x80 ≤ v) (hhigh : v < 0x800) :
    idle.read (.ofNat (0xC2 + (v / 64 - 2)) :: .ofNat (v % 64 + 128) :: rest) =
      Char.ofNat v :: idle.read rest := by
  have hfirst := first_double (v / 64 - 2) (by omega)
  have hsum : (2 + (v / 64 - 2)) * 64 + v % 64 = v := by omega
  rw [read, step, hfirst, read, step_tail (by omega)]
  dsimp only
  rw [hsum]
  rfl

/-- Three bytes: the second one respects the range that the first one leaves. -/
lemma read_triple (hlow : 0x800 ≤ v) (hhigh : v < 0x10000) (hvalid : v < 0xD800 ∨ 0xDFFF < v) :
    idle.read (.ofNat (0xE0 + v / 4096) :: .ofNat (v / 64 % 64 + 128) :: .ofNat (v % 64 + 128) ::
      rest) = Char.ofNat v :: idle.read rest := by
  have hfirst := first_triple (v / 4096) (by omega)
  have hsum : (v / 4096 * 64 + v / 64 % 64) * 64 + v % 64 = v := by omega
  have hlowest : (if v / 4096 = 0 then 0xA0 else tailLowest).toNat ≤ v / 64 % 64 + 128 := by
    split
    · have : (0xA0 : UInt8).toNat = 160 := rfl
      omega
    · have : tailLowest.toNat = 128 := rfl
      omega
  have hhighest : v / 64 % 64 + 128 ≤ (if v / 4096 = 0xD then 0x9F else tailHighest).toNat := by
    split
    · have : (0x9F : UInt8).toNat = 159 := rfl
      omega
    · have : tailHighest.toNat = 191 := rfl
      omega
  rw [read, step, hfirst, read, step_inside (by omega) hlowest hhighest]
  dsimp only
  rw [read, step_tail (by omega)]
  dsimp only
  rw [hsum]
  rfl

/-- Four bytes: the second one respects the range that the first one leaves. -/
lemma read_quadruple (hlow : 0x10000 ≤ v) (hhigh : v < 0x110000) :
    idle.read (.ofNat (0xF0 + v / 262144) :: .ofNat (v / 4096 % 64 + 128) ::
      .ofNat (v / 64 % 64 + 128) :: .ofNat (v % 64 + 128) :: rest) =
      Char.ofNat v :: idle.read rest := by
  have hfirst := first_quadruple (v / 262144) (by omega)
  have hsum : ((v / 262144 * 64 + v / 4096 % 64) * 64 + v / 64 % 64) * 64 + v % 64 = v := by omega
  have hlowest : (if v / 262144 = 0 then 0x90 else tailLowest).toNat ≤ v / 4096 % 64 + 128 := by
    split
    · have : (0x90 : UInt8).toNat = 144 := rfl
      omega
    · have : tailLowest.toNat = 128 := rfl
      omega
  have hhighest :
      v / 4096 % 64 + 128 ≤ (if v / 262144 = 4 then 0x8F else tailHighest).toNat := by
    split
    · have : (0x8F : UInt8).toNat = 143 := rfl
      omega
    · have : tailHighest.toNat = 191 := rfl
      omega
  rw [read, step, hfirst, read, step_inside (by omega) hlowest hhighest]
  dsimp only
  rw [read, step_tail (by omega)]
  dsimp only
  rw [read, step_tail (by omega)]
  dsimp only
  rw [hsum]
  rfl

/-- The encoding of a character is read as that character. -/
lemma read_utf8EncodeChar (c : Char) :
    idle.read (String.utf8EncodeChar c ++ rest) = c :: idle.read rest := by
  have hchar : Char.ofNat c.val.toNat = c := Char.ofNat_toNat c
  have hvalid : c.val.toNat < 0xD800 ∨ 0xDFFF < c.val.toNat ∧ c.val.toNat < 0x110000 := c.valid
  unfold String.utf8EncodeChar
  dsimp only
  generalize c.val.toNat = v at hchar hvalid ⊢
  split
  · have hfirst := first_single v (by omega)
    rw [List.cons_append, read, step, hfirst, hchar]
    rfl
  split
  · have hlead : v / 64 % 32 + 192 = 0xC2 + (v / 64 - 2) := by omega
    rw [hlead, ← hchar]
    exact read_double rest (by omega) (by omega)
  split
  · have hlead : v / 4096 % 16 + 224 = 0xE0 + v / 4096 := by omega
    rw [hlead, ← hchar]
    exact read_triple rest (by omega) (by omega) (by omega)
  · have hlead : v / 262144 % 8 + 240 = 0xF0 + v / 262144 := by omega
    rw [hlead, ← hchar]
    exact read_quadruple rest (by omega) (by omega)

end State

/-! ## Texts -/

/-- The encoding of a text in front of other bytes is read as the text. -/
lemma decode_ofText_append (s : String) (rest : Bytes) :
    decode (Bytes.ofText s ++ rest) = s.toList ++ decode rest := by
  rw [Bytes.ofText, decode, decode]
  induction s.toList with
  | nil => rfl
  | cons c cs ih =>
    rw [List.flatMap_cons, List.append_assoc, State.read_utf8EncodeChar, ih, List.cons_append]

/-- **Valid text is read as it is.** -/
theorem text_ofText (s : String) : text (Bytes.ofText s) = s := by
  have hnil : decode [] = [] := rfl
  have h := decode_ofText_append s []
  rw [hnil, List.append_nil, List.append_nil] at h
  rw [text, h, String.ofList_toList]

end Lossy

end WasmTrace
