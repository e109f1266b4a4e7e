import WasmTrace.Proofs.HexDigits
import WasmTrace.Vec128

/-!
# Lanes and their digits

A vector of 128 bits is cut into lanes by shifting and truncating, and joined by shifting and "or".
Its text shows the lanes from the least significant one on, each in as many digits as a lane can
need, so the digits of the whole number are those of the lanes, read from the last lane to the
first.

The main statement is `Vec128.lanes_lossless`.
-/

namespace WasmTrace

namespace Vec128

open Numeral (hexPadded hexPadded_append isPaddedHex_hexPadded)

/-! ## Lanes as parts of a number -/

/-- A lane is the vector shifted down to it and truncated. -/
lemma ofBits_eq_truncate (bits : BitVec 128) : ofBits bits =
    ⟨⟨bits.setWidth 32⟩, ⟨(bits >>> 32).setWidth 32⟩, ⟨(bits >>> 64).setWidth 32⟩,
      ⟨(bits >>> 96).setWidth 32⟩⟩ := by
  have hfirst : bits.setWidth 32 = bits.extractLsb' 0 32 := by
    rw [← BitVec.setWidth_ushiftRight_eq_extractLsb, BitVec.ushiftRight_zero]
  rw [hfirst, BitVec.setWidth_ushiftRight_eq_extractLsb, BitVec.setWidth_ushiftRight_eq_extractLsb,
    BitVec.setWidth_ushiftRight_eq_extractLsb]
  rfl

/-- The vector is made of the lanes, each extended and shifted up to its place. -/
lemma toBits_eq_or (v : Vec128) : v.toBits =
    v.lane0.toBitVec.setWidth 128 ||| v.lane1.toBitVec.setWidth 128 <<< 32 |||
      v.lane2.toBitVec.setWidth 128 <<< 64 ||| v.lane3.toBitVec.setWidth 128 <<< 96 := by
  have hjoined : v.toBits.setWidth 128 =
      v.lane3.toBitVec.setWidth 128 <<< 96 ||| v.lane2.toBitVec.setWidth 128 <<< 64 |||
        v.lane1.toBitVec.setWidth 128 <<< 32 ||| v.lane0.toBitVec.setWidth 128 :=
    BitVec.setWidth_append_append_append_eq_shiftLeft_setWidth_or
  rw [BitVec.setWidth_eq] at hjoined
  rw [hjoined, BitVec.or_comm, BitVec.or_comm (v.lane3.toBitVec.setWidth 128 <<< 96 ||| _),
    BitVec.or_comm (v.lane3.toBitVec.setWidth 128 <<< 96), ← BitVec.or_assoc, ← BitVec.or_assoc]

/-- A lane as a number: the quotient at its place, up to the place of the next one. -/
lemma toNat_lane (bits : BitVec 128) (place : Nat) :
    (UInt32.ofBitVec (bits.extractLsb' place 32)).toNat = bits.toNat / 2 ^ place % 2 ^ 32 := by
  rw [← Nat.shiftRight_eq_div_pow]
  exact BitVec.extractLsb'_toNat place 32 bits

/-! ## Groups of digits -/

/-- The digits of the lanes, from the least significant one on. -/
def groups (v : Vec128) : List String :=
  [laneDigits v.lane0, laneDigits v.lane1, laneDigits v.lane2, laneDigits v.lane3]

/-- A group is the eight digits of a lane. -/
lemma mem_groups {v : Vec128} {group : String} (h : group ∈ v.groups) :
    group.length = 8 ∧ ∀ c ∈ group.toList, Numeral.isHexDigit c = true := by
  obtain ⟨lane, rfl⟩ : ∃ lane, group = laneDigits lane := by
    simp only [groups, List.mem_cons, List.not_mem_nil, or_false] at h
    rcases h with h | h | h | h <;> exact ⟨_, h⟩
  have hpadded := isPaddedHex_hexPadded (by decide : 0 < 8) lane.toNat
  refine ⟨Nat.le_antisymm ?_ ?_, hpadded.isHexDigit⟩
  · refine Nat.not_lt.mp fun hlong => Nat.not_le.mpr lane.toNat_lt ?_
    exact (Numeral.width_lt_length_hexPadded_iff (by decide : 0 < 8) _).mp hlong
  · exact hpadded.width_le

/-- Every group is marked. -/
lemma lanesText_eq (v : Vec128) : v.lanesText = " ".intercalate (v.groups.map ("0x" ++ ·)) := by
  have hmark : ∀ s : String, " " ++ ("0x" ++ s) = " 0x" ++ s := by
    intro s
    rw [← String.append_assoc]
    rfl
  simp [lanesText, groups, hmark, String.append_assoc]

/-- Only the first group is marked. -/
lemma shuffleText_eq (v : Vec128) : v.shuffleText = "0x" ++ " ".intercalate v.groups := by
  simp [shuffleText, groups, String.append_assoc]

/-- The last eight digits of a numeral are those of the lowest 32 bits. -/
lemma hexPadded_add_eight (front : Nat) {n : Nat} (hfront : 0 < front) (h : n < 16 ^ (front + 8)) :
    n / 2 ^ 32 < 16 ^ front ∧
      hexPadded (front + 8) n = hexPadded front (n / 2 ^ 32) ++ hexPadded 8 (n % 2 ^ 32) := by
  refine ⟨?_, hexPadded_append hfront (by decide) h⟩
  rw [Nat.pow_add] at h
  exact (Nat.div_lt_iff_lt_mul (by decide)).mpr h

/-- **Read from the last to the first, the groups are the numeral of the whole number.** -/
lemma join_groups (bits : BitVec 128) :
    String.join (ofBits bits).groups.reverse = hexPadded 32 bits.toNat := by
  have hjoined : String.join (ofBits bits).groups.reverse =
      hexPadded 8 (bits.toNat / 2 ^ 96 % 2 ^ 32) ++ hexPadded 8 (bits.toNat / 2 ^ 64 % 2 ^ 32) ++
        hexPadded 8 (bits.toNat / 2 ^ 32 % 2 ^ 32) ++ hexPadded 8 (bits.toNat % 2 ^ 32) := by
    rw [← toNat_lane, ← toNat_lane, ← toNat_lane, ← Nat.div_one bits.toNat, ← Nat.pow_zero 2,
      ← toNat_lane]
    simp [groups, laneDigits, ofBits, String.append_assoc]
  -- the lowest lane is cut off three times
  obtain ⟨h24, hlane0⟩ := hexPadded_add_eight 24 (by decide) bits.isLt
  obtain ⟨h16, hlane1⟩ := hexPadded_add_eight 16 (by decide) h24
  obtain ⟨h8, hlane2⟩ := hexPadded_add_eight 8 (by decide) h16
  have hlast : bits.toNat / 2 ^ 96 % 2 ^ 32 = bits.toNat / 2 ^ 32 / 2 ^ 32 / 2 ^ 32 := by
    rw [Nat.div_div_eq_div_mul, Nat.div_div_eq_div_mul] at h8 ⊢
    exact Nat.mod_eq_of_lt h8
  have hthird : bits.toNat / 2 ^ 64 % 2 ^ 32 = bits.toNat / 2 ^ 32 / 2 ^ 32 % 2 ^ 32 := by
    rw [Nat.div_div_eq_div_mul, ← Nat.pow_add]
  rw [hjoined, hlane0, hlane1, hlane2, hlast, hthird]

/-- **Vectors and their texts lose nothing.**  Lanes are the vector shifted and truncated, joining
shifts them back, and one undoes the other.  The text of a vector is four groups of eight
hexadecimal digits, each marked and with a space between them; as the operand of a shuffle only the
first group is marked.  From the last group to the first, the digits are the numeral of the whole
number in 32 digits. -/
theorem lanes_lossless :
    (∀ bits : BitVec 128, ofBits bits =
      ⟨⟨bits.setWidth 32⟩, ⟨(bits >>> 32).setWidth 32⟩, ⟨(bits >>> 64).setWidth 32⟩,
        ⟨(bits >>> 96).setWidth 32⟩⟩) ∧
    (∀ v : Vec128, v.toBits =
      v.lane0.toBitVec.setWidth 128 ||| v.lane1.toBitVec.setWidth 128 <<< 32 |||
        v.lane2.toBitVec.setWidth 128 <<< 64 ||| v.lane3.toBitVec.setWidth 128 <<< 96) ∧
    (∀ bits : BitVec 128, (ofBits bits).toBits = bits) ∧
    (∀ v : Vec128, ofBits v.toBits = v) ∧
    ∀ bits : BitVec 128, ∃ groups : List String,
      groups.length = 4 ∧
      (∀ group ∈ groups, group.length = 8 ∧ ∀ c ∈ group.toList, Numeral.isHexDigit c = true) ∧
      (ofBits bits).lanesText = " ".intercalate (groups.map ("0x" ++ ·)) ∧
      (ofBits bits).shuffleText = "0x" ++ " ".intercalate groups ∧
      (String.join groups.reverse).length = 32 ∧
      Numeral.IsPaddedHex 32 bits.toNat (String.join groups.reverse) := by
  refine ⟨ofBits_eq_truncate, toBits_eq_or, toBits_ofBits, ofBits_toBits, fun bits => ?_⟩
  refine ⟨(ofBits bits).groups, rfl, fun group => mem_groups, lanesText_eq _, shuffleText_eq _,
    ?_, ?_⟩
  · rw [String.length_join]
    have hlength : (ofBits bits).groups.reverse.map String.length = List.replicate 4 8 := by
      rw [List.eq_replicate_iff]
      refine ⟨rfl, fun n hn => ?_⟩
      obtain ⟨group, hgroup, rfl⟩ := List.mem_map.mp hn
      exact (mem_groups (List.mem_reverse.mp hgroup)).1
    rw [hlength]
    rfl
  · rw [join_groups]
    exact isPaddedHex_hexPadded (by decide) bits.toNat

/-- A small lane is padded, and the least significant lane comes first. -/
example : (ofBits 0x0123456789abcdef0000000000000007).lanesText =
    "0x00000007 0x00000000 0x89abcdef 0x01234567" := by
  decide

end Vec128

end WasmTrace
