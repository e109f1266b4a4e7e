import WasmTrace.Opcode
import WasmTrace.Proofs.Legible

/-!
# Decoding

An encoding is decoded by looking it up in the table of its space.  The tables are taken together
here as one list of instructions, `Opcode.tabled`: each instruction is found by its encoding, and
no two of them have the same encoding or the same mnemonic.  So the text of an instruction that was
decoded tells the encoding, although it does not show the space.

The main statement is `Opcode.decoding_unambiguous`.
-/

namespace WasmTrace

/-- In a table with different keys, looking up a key finds the entry with the key. -/
lemma lookup_eq_some_iff_mem {α β : Type} [BEq α] [LawfulBEq α] {l : List (α × β)} {k : α} {v : β}
    (hkeys : (l.map Prod.fst).Nodup) : l.lookup k = some v ↔ (k, v) ∈ l := by
  rw [List.lookup_eq_some_iff]
  constructor
  · rintro ⟨front, back, rfl, -⟩
    exact List.mem_append_right front List.mem_cons_self
  · intro hmem
    obtain ⟨front, back, rfl⟩ := List.append_of_mem hmem
    refine ⟨front, back, rfl, fun entry hentry => ?_⟩
    rw [List.map_append, List.nodup_append] at hkeys
    rw [bne_iff_ne]
    exact (hkeys.2.2 _ (List.mem_map_of_mem hentry) _ List.mem_cons_self).symm

/-- What stands in ascending order has no repetitions. -/
lemma nodup_of_isChain {α : Type} {l : List α} (f : α → Nat) (h : (l.map f).IsChain (· < ·)) :
    l.Nodup :=
  List.Nodup.of_map f (h.pairwise.imp Nat.ne_of_lt)

namespace Opcode

open Bytes (ofText)

/-! ## The tabled instructions -/

/-- All tabled instructions. -/
def tabled : List Opcode :=
  (plainTable.map fun (code, mnemonic) => { mnemonic, space := none, code }) ++
    bulkTable.map fun (code, mnemonic) => { mnemonic, space := some bulkSpace, code }

/-- An instruction is tabled exactly if it is in the table of its space. -/
lemma mem_tabled_iff (o : Opcode) : o ∈ tabled ↔ (o.code, o.mnemonic) ∈ table o.space := by
  obtain ⟨mnemonic, space, code⟩ := o
  cases space with
  | none => simp [tabled, table]
  | some space =>
    by_cases hspace : space = bulkSpace
    · simp [tabled, table, hspace]
    · simp [tabled, table, hspace, Ne.symm hspace]

lemma nodup_plainTable : (plainTable.map Prod.fst).Nodup :=
  nodup_of_isChain UInt32.toNat (by decide +kernel)

/-- No two instructions of a space have the same code: the tables are in ascending order. -/
lemma nodup_codes (space : Option UInt8) : ((table space).map Prod.fst).Nodup := by
  cases space with
  | none => exact nodup_plainTable
  | some space =>
    unfold table
    dsimp only
    split
    · exact nodup_of_isChain UInt32.toNat (by decide)
    · exact List.nodup_nil

/-- No two instructions have the same mnemonic.  As in the case of the names of kinds, they are
compared as numbers. -/
lemma nodup_mnemonics : (tabled.map mnemonic).Nodup := by
  refine List.Nodup.of_map (fun s => Bytes.code (ofText s)) ?_
  simp only [List.map_map, Function.comp_def, Bytes.ofText_eq_toByteArray]
  decide +kernel

/-- A tabled instruction is known by its mnemonic. -/
lemma eq_of_mnemonic_eq {o p : Opcode} (ho : o ∈ tabled) (hp : p ∈ tabled)
    (h : o.mnemonic = p.mnemonic) : o = p :=
  List.inj_on_of_nodup_map nodup_mnemonics ho hp h

/-! ## Decoding by looking up -/

/-- **Decoding finds exactly the tabled instruction with the encoding.** -/
lemma decode?_eq_some_iff (space : Option UInt8) (code : UInt32) (o : Opcode) :
    decode? space code = some o ↔ o ∈ tabled ∧ o.space = space ∧ o.code = code := by
  rw [mem_tabled_iff, decode?, Option.map_eq_some_iff]
  constructor
  · rintro ⟨mnemonic, hlookup, rfl⟩
    exact ⟨(lookup_eq_some_iff_mem (nodup_codes space)).mp hlookup, rfl, rfl⟩
  · rintro ⟨hmem, rfl, rfl⟩
    exact ⟨o.mnemonic, (lookup_eq_some_iff_mem (nodup_codes o.space)).mpr hmem, rfl⟩

/-- The byte with this value, if there is one. -/
def byte? (code : UInt32) : Option UInt8 := if code ≤ 255 then some code.toUInt8 else none

/-- The mnemonics of the instructions encoded in one byte, by that byte. -/
def byteTable : List (UInt8 × String) :=
  plainTable.map fun (code, mnemonic) => (code.toUInt8, mnemonic)

/-- The codes of instructions without a space are values of bytes. -/
lemma le_of_mem_plainTable : ∀ entry ∈ plainTable, entry.1 ≤ 255 := by decide +kernel

/-- Values of bytes are told apart by the bytes. -/
lemma eq_of_toUInt8_eq {c d : UInt32} (hc : c ≤ 255) (hd : d ≤ 255) (h : c.toUInt8 = d.toUInt8) :
    c = d := by
  have hc' : c.toNat ≤ 255 := hc
  have hd' : d.toNat ≤ 255 := hd
  have hnat : c.toNat % 2 ^ 8 = d.toNat % 2 ^ 8 := by
    rw [← UInt32.toNat_toUInt8, ← UInt32.toNat_toUInt8, h]
  rw [← UInt32.toNat_inj]
  omega

lemma mem_byteTable_iff {code : UInt32} (hcode : code ≤ 255) (mnemonic : String) :
    (code.toUInt8, mnemonic) ∈ byteTable ↔ (code, mnemonic) ∈ plainTable := by
  rw [byteTable, List.mem_map]
  constructor
  · rintro ⟨entry, hentry, heq⟩
    obtain ⟨hbyte, rfl⟩ := Prod.mk.inj heq
    rwa [← eq_of_toUInt8_eq (le_of_mem_plainTable entry hentry) hcode hbyte]
  · intro hmem
    exact ⟨(code, mnemonic), hmem, rfl⟩

lemma nodup_bytes : (byteTable.map Prod.fst).Nodup :=
  nodup_of_isChain UInt8.toNat (by decide +kernel)

/-- Without a space, a code is looked up as a byte, and only if it is the value of one. -/
lemma lookup_plainTable (code : UInt32) :
    plainTable.lookup code = (byte? code).bind fun byte => byteTable.lookup byte := by
  ext mnemonic
  rw [lookup_eq_some_iff_mem nodup_plainTable, byte?]
  split
  · next hcode =>
    rw [Option.bind_some, lookup_eq_some_iff_mem nodup_bytes, mem_byteTable_iff hcode]
  · next hcode =>
    exact iff_of_false (fun hmem => hcode (le_of_mem_plainTable _ hmem)) nofun

/-! ## Encodings and texts -/

/-- **An encoding that is decoded is known by the mnemonic, and by the text.**  Decoding finds
exactly the tabled instruction with the encoding, so an instruction that was decoded has the space
and the code that it was decoded from.  Without a space the code is looked up as a byte, and no greater code
is decoded; of the spaces only one is decoded.  Two encodings that are decoded have the same
mnemonic, or the same text, exactly if they are the same, although codes repeat from space to space
and a text does not show the space. -/
theorem decoding_unambiguous :
    (∀ (space : Option UInt8) (code : UInt32) (o : Opcode),
      decode? space code = some o ↔ o ∈ tabled ∧ o.space = space ∧ o.code = code) ∧
    (∀ code : UInt32, decode? none code =
      ((byte? code).bind fun byte => byteTable.lookup byte).map fun mnemonic =>
        { mnemonic, space := none, code }) ∧
    (∀ code : UInt32, 255 < code → decode? none code = none) ∧
    (∀ (space : UInt8) (code : UInt32), space ≠ 0xfc → decode? (some space) code = none) ∧
    ∀ (space space' : Option UInt8) (code code' : UInt32) (o o' : Opcode),
      decode? space code = some o → decode? space' code' = some o' →
        (o.mnemonic = o'.mnemonic ↔ space = space' ∧ code = code') ∧
        (o.text = o'.text ↔ space = space' ∧ code = code') := by
  have hnone : ∀ code, decode? none code =
      ((byte? code).bind fun byte => byteTable.lookup byte).map fun mnemonic =>
        { mnemonic, space := none, code } := by
    intro code
    rw [← lookup_plainTable]
    rfl
  refine ⟨decode?_eq_some_iff, hnone, fun code hcode => ?_, fun space code hspace => ?_, ?_⟩
  · rw [hnone, byte?, if_neg (UInt32.not_le.mpr hcode), Option.bind_none, Option.map_none]
  · rw [decode?, table, if_neg (show ¬space = bulkSpace from hspace), List.lookup_nil,
      Option.map_none]
  · intro space space' code code' o o' ho ho'
    obtain ⟨hmem, rfl, rfl⟩ := (decode?_eq_some_iff space code o).mp ho
    obtain ⟨hmem', rfl, rfl⟩ := (decode?_eq_some_iff space' code' o').mp ho'
    have hsame : o.space = o'.space ∧ o.code = o'.code → o = o' := by
      rintro ⟨hspace, hcode⟩
      rw [hspace, hcode] at ho
      exact Option.some.inj (ho.symm.trans ho')
    refine ⟨⟨fun h => ?_, fun h => by rw [hsame h]⟩, ⟨fun h => ?_, fun h => by rw [hsame h]⟩⟩
    · rw [eq_of_mnemonic_eq hmem hmem' h]
      exact ⟨rfl, rfl⟩
    · rw [eq_of_mnemonic_eq hmem hmem' ((text_eq_iff o o').mp h).1]
      exact ⟨rfl, rfl⟩

/-- Code ten stands for different instructions in two spaces. -/
theorem code_ten_in_two_spaces :
    decode? none 10 = some ⟨"br_on_exn", none, 10⟩ ∧
      decode? (some 0xfc) 10 = some ⟨"memory.copy", some 0xfc, 10⟩ ∧
      (⟨"br_on_exn", none, 10⟩ : Opcode).text ≠ (⟨"memory.copy", some 0xfc, 10⟩ : Opcode).text ∧
      (255 : UInt32) < 0x10a ∧ decode? none 0x10a = none ∧
      (0xfd : UInt8) ≠ 0xfc ∧ decode? (some 0xfd) 10 = none := by
  have hplain : decode? none 10 = some ⟨"br_on_exn", none, 10⟩ := by decide
  have hbulk : decode? (some 0xfc) 10 = some ⟨"memory.copy", some 0xfc, 10⟩ := by decide
  have hcode : (255 : UInt32) < 0x10a := by decide
  have hspace : (0xfd : UInt8) ≠ 0xfc := by decide
  obtain ⟨-, -, hgreat, hother, htexts⟩ := decoding_unambiguous
  refine ⟨hplain, hbulk, fun h => ?_, hcode, hgreat 0x10a hcode, hspace, hother 0xfd 10 hspace⟩
  exact absurd ((htexts _ _ _ _ _ _ hplain hbulk).2.mp h).1 (by decide)

end Opcode

end WasmTrace
