import WasmTrace.Text

/-!
# Vectors of 128 bits

A vector is four lanes of 32 bits, the first one the least significant.

The main statements are `Vec128.toBits_ofBits` and `Vec128.ofBits_toBits`: lanes and bits hold
the same.
-/

namespace WasmTrace

/-- A vector of four lanes, lane 0 the least significant. -/
structure Vec128 where
  lane0 : UInt32 := 0
  lane1 : UInt32 := 0
  lane2 : UInt32 := 0
  lane3 : UInt32 := 0
  deriving DecidableEq, Repr

namespace Vec128

/-- The lanes of 128 bits. -/
def ofBits (bits : BitVec 128) : Vec128 where
  lane0 := ⟨bits.extractLsb' 0 32⟩
  lane1 := ⟨bits.extractLsb' 32 32⟩
  lane2 := ⟨bits.extractLsb' 64 32⟩
  lane3 := ⟨bits.extractLsb' 96 32⟩

/-- The 128 bits of the lanes. -/
def toBits (v : Vec128) : BitVec 128 :=
  v.lane3.toBitVec ++ v.lane2.toBitVec ++ v.lane1.toBitVec ++ v.lane0.toBitVec

/-- Cutting 128 bits into lanes loses none of them. -/
@[simp]
theorem toBits_ofBits (bits : BitVec 128) : (ofBits bits).toBits = bits := by
  apply BitVec.eq_of_getLsbD_eq
  intro i hi
  have hlane : i < 32 ∨ (32 ≤ i ∧ i < 64) ∨ (64 ≤ i ∧ i < 96) ∨ 96 ≤ i := by omega
  unfold ofBits toBits
  rw [BitVec.getLsbD_append, BitVec.getLsbD_append, BitVec.getLsbD_append]
  rcases hlane with h | h | h | h <;>
    simp (disch := omega) only [BitVec.getLsbD_extractLsb', if_pos, if_neg,
      decide_eq_true, Bool.true_and] <;>
    exact congrArg _ (by omega)

/-- Joining four lanes keeps each of them. -/
@[simp]
theorem ofBits_toBits (v : Vec128) : ofBits v.toBits = v := by
  obtain ⟨⟨a⟩, ⟨b⟩, ⟨c⟩, ⟨d⟩⟩ := v
  simp only [ofBits, toBits, Vec128.mk.injEq, UInt32.ofBitVec.injEq]
  refine ⟨?_, ?_, ?_, ?_⟩ <;> apply BitVec.eq_of_getLsbD_eq <;> intro i hi <;>
    simp (disch := omega) only [BitVec.getLsbD_extractLsb', BitVec.getLsbD_append, hi,
      decide_true, Bool.true_and, if_pos, if_neg] <;>
    exact congrArg _ (by omega)

/-- The eight hexadecimal digits of a lane. -/
def laneDigits (lane : UInt32) : String := Numeral.hexPadded 8 lane.toNat

/-- The lanes from the first one on, each marked as hexadecimal. -/
def lanesText (v : Vec128) : String :=
  "0x" ++ laneDigits v.lane0 ++ " 0x" ++ laneDigits v.lane1 ++
    " 0x" ++ laneDigits v.lane2 ++ " 0x" ++ laneDigits v.lane3

/-- The lanes as the operand of a shuffle: only the first one is marked. -/
def shuffleText (v : Vec128) : String :=
  "0x" ++ laneDigits v.lane0 ++ " " ++ laneDigits v.lane1 ++
    " " ++ laneDigits v.lane2 ++ " " ++ laneDigits v.lane3

end Vec128

end WasmTrace
