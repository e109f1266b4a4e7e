import WasmTrace.Proofs.Legible

/-!
# Codes

In a binary a value type is a signed number of 32 bits: a negative one for a primitive type, any
other for the index of a signature.  Indices are unsigned, so the greater half of them have no code.

The codes of the primitive types are written down a second time, as the table of a reader that goes
from codes to types.  The main statement is `ValType.codes_correspond`: a code is read as a type
exactly if it is the code of the type, and what is read is what the table says.
-/

namespace WasmTrace

/-- The primitive type of a negative code, code by code. -/
def Prescribed.primitive? : ℤ → Option Primitive
  | -0x01 => some .i32
  | -0x02 => some .i64
  | -0x03 => some .f32
  | -0x04 => some .f64
  | -0x05 => some .v128
  | -0x10 => some .funcref
  | -0x11 => some .anyref
  | -0x12 => some .nullref
  | -0x18 => some .exnref
  | -0x20 => some .func
  | -0x40 => some .void
  | _ => none

namespace Primitive

/-- The codes of the primitive types differ. -/
lemma code_injective : Function.Injective code := by
  refine injective_of_nodup_map ?_ (by decide : (all.map code).Nodup)
  intro p
  cases p <;> decide

/-- The codes of the primitive types are negative. -/
lemma code_lt_zero (p : Primitive) : p.code < 0 := by
  cases p <;> decide

/-- A primitive type is found by its code. -/
lemma ofCode?_eq_some_iff (c : Int32) (p : Primitive) : ofCode? c = some p ↔ p.code = c := by
  refine find?_eq_some_iff_of_injective ?_ code_injective
  intro p
  cases p <;> decide

/-- The table from codes to types and the codes of the types say the same. -/
lemma prescribed_eq_some_iff (z : ℤ) (p : Primitive) :
    Prescribed.primitive? z = some p ↔ p.code.toInt = z := by
  constructor
  · intro h
    unfold Prescribed.primitive? at h
    split at h <;> cases h <;> rfl
  · rintro rfl
    cases p <;> rfl

/-- Reading a code is looking it up in the table. -/
lemma ofCode?_eq_prescribed (c : Int32) : ofCode? c = Prescribed.primitive? c.toInt := by
  ext p
  rw [ofCode?_eq_some_iff, prescribed_eq_some_iff, Int32.toInt_inj]

end Primitive

namespace ValType

/-- The greatest index with a code is the greatest signed number of 32 bits. -/
lemma le_maxCodedIndex_iff (n : UInt32) : n ≤ maxCodedIndex ↔ n.toNat ≤ Int32.maxValue.toInt := by
  have hmax : maxCodedIndex.toNat = 2147483647 := rfl
  have hint : Int32.maxValue.toInt = 2147483647 := rfl
  rw [UInt32.le_iff_toNat_le, hmax, hint]
  omega

/-- An index keeps its sign as a signed number exactly if it has a code. -/
lemma zero_le_toInt32_iff (n : UInt32) : 0 ≤ n.toInt32 ↔ n ≤ maxCodedIndex := by
  have hint : Int32.maxValue.toInt = 2147483647 := rfl
  have hzero : (0 : Int32).toInt = 0 := rfl
  have hsigned : n.toInt32.toInt = if 2 * n.toNat < 2 ^ 32 then (n.toNat : ℤ) else n.toNat - 2 ^ 32 :=
    BitVec.toInt_eq_toNat_cond n.toBitVec
  have hlt := n.toNat_lt
  rw [le_maxCodedIndex_iff, Int32.le_iff_toInt_le, hsigned, hint, hzero]
  split <;> omega

/-- A primitive type is read from its code. -/
lemma ofCode?_eq_primitive_iff (c : Int32) (p : Primitive) :
    ofCode? c = some (.primitive p) ↔ p.code = c := by
  rw [ofCode?]
  split
  · next hc =>
    refine iff_of_false nofun ?_
    rintro rfl
    exact Int32.not_lt.mpr hc p.code_lt_zero
  · next hc =>
    rw [← Primitive.ofCode?_eq_some_iff, Option.map_eq_some_iff]
    constructor
    · rintro ⟨q, hq, hqp⟩
      rwa [← ValType.primitive.inj hqp]
    · intro hp
      exact ⟨p, hp, rfl⟩

/-- An index is read from the signed number with the same bits, if that is not negative. -/
lemma ofCode?_eq_index_iff (c : Int32) (n : UInt32) :
    ofCode? c = some (.index n) ↔ 0 ≤ c ∧ c.toUInt32 = n := by
  rw [ofCode?]
  split
  · next hc => simp [hc]
  · next hc => simp [hc]

/-- **A code is read as a type exactly if it is the code of the type.** -/
lemma ofCode?_eq_some_iff (c : Int32) (t : ValType) : ofCode? c = some t ↔ t.code? = some c := by
  cases t with
  | primitive p =>
    rw [ofCode?_eq_primitive_iff, code?, Option.some_inj]
  | index n =>
    rw [ofCode?_eq_index_iff, code?, Option.ite_none_right_eq_some, Option.some_inj]
    constructor
    · rintro ⟨hc, rfl⟩
      rw [← zero_le_toInt32_iff, c.toInt32_toUInt32]
      exact ⟨hc, rfl⟩
    · rintro ⟨hn, rfl⟩
      exact ⟨(zero_le_toInt32_iff n).mpr hn, n.toUInt32_toInt32⟩

/-- Exactly the indices above the greatest signed number have no code. -/
lemma code?_eq_none_iff (t : ValType) :
    t.code? = none ↔ ∃ n : UInt32, t = .index n ∧ Int32.maxValue.toInt < n.toNat := by
  cases t with
  | primitive p => exact iff_of_false nofun nofun
  | index n =>
    rw [code?, ite_eq_right_iff, le_maxCodedIndex_iff]
    constructor
    · intro hnone
      exact ⟨n, rfl, Int.not_le.mp fun hle => nomatch hnone hle⟩
    · rintro ⟨m, hm, hlt⟩ hle
      rw [← ValType.index.inj hm] at hlt
      exact absurd hle (Int.not_le.mpr hlt)

/-- **Types and codes correspond.**  A code from zero on is read as an index, a negative one as the
table says, and it is read as a type exactly if it is the code of the type.  Hence:

* no two codes are read as the same type;
* exactly the indices above the greatest signed number of 32 bits have no code;
* no code at all is read as such an index, so it stands for no primitive type either: their codes
  are negative, and each of them is read as its own type. -/
theorem codes_correspond :
    (∀ c : Int32, ofCode? c =
      if 0 ≤ c then some (.index c.toUInt32)
      else (Prescribed.primitive? c.toInt).map .primitive) ∧
      (∀ (c : Int32) (t : ValType), ofCode? c = some t ↔ t.code? = some c) ∧
      (∀ (c d : Int32) (t : ValType), ofCode? c = some t → ofCode? d = some t → c = d) ∧
      (∀ t : ValType,
        t.code? = none ↔ ∃ n : UInt32, t = .index n ∧ Int32.maxValue.toInt < n.toNat) ∧
      ∀ n : UInt32, Int32.maxValue.toInt < n.toNat →
        (∀ c : Int32, ofCode? c ≠ some (.index n)) ∧
        ∀ p : Primitive, p.code < 0 ∧ (ValType.index n).code? ≠ some p.code ∧
          ofCode? p.code = some (.primitive p) := by
  refine ⟨fun c => ?_, ofCode?_eq_some_iff, ?_, code?_eq_none_iff, ?_⟩
  · rw [ofCode?, Primitive.ofCode?_eq_prescribed]
  · intro c d t hc hd
    rw [ofCode?_eq_some_iff] at hc hd
    exact Option.some.inj (hc.symm.trans hd)
  · intro n hn
    have hnone : (ValType.index n).code? = none := (code?_eq_none_iff _).mpr ⟨n, rfl, hn⟩
    refine ⟨fun c hc => ?_, fun p => ⟨p.code_lt_zero, ?_, ?_⟩⟩
    · rw [ofCode?_eq_some_iff, hnone] at hc
      cases hc
    · rw [hnone]
      exact nofun
    · exact (ofCode?_eq_primitive_iff _ p).mpr rfl

/-- The greatest index has the bits of the code of a primitive type, but that code is read as the
primitive type, and no code is read as the index. -/
theorem greatest_index_has_no_code :
    (0xffffffff : UInt32).toInt32 = Primitive.i32.code ∧
      Int32.maxValue.toInt < (0xffffffff : UInt32).toNat ∧
      (∀ c : Int32, ofCode? c ≠ some (.index 0xffffffff)) ∧
      ofCode? Primitive.i32.code = some (.primitive .i32) := by
  have habove : Int32.maxValue.toInt < (0xffffffff : UInt32).toNat := by decide
  obtain ⟨hindex, hprimitive⟩ := codes_correspond.2.2.2.2 0xffffffff habove
  exact ⟨by decide, habove, hindex, (hprimitive .i32).2.2⟩

end ValType

end WasmTrace
