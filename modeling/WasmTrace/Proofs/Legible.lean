import WasmTrace.Proofs.Listing
import WasmTrace.Proofs.Names
import WasmTrace.Proofs.Numerals
import WasmTrace.Proofs.Shape

/-!
# What a style tells

An argument that is shown in a style can be read back as far as the style shows it.  Most styles
show all of an argument; others leave something out.  What is left to be read is a `Field`.

The main statement is `Style.render_eq_iff`: two arguments are shown alike exactly if they agree in
their field.  That the fields of a line can be told apart from what surrounds them is the matter of
`Style.fits_render`, which says where an argument may stand in a shape.
-/

namespace WasmTrace

open Bytes (ofText comma ofText_injective)

/-! ## Types, limits, vectors and opcodes -/

/-- A table without repetitions tells its entries apart, if everything is in the table. -/
lemma injective_of_nodup_map {α β : Type} {all : List α} {f : α → β} (hall : ∀ a, a ∈ all)
    (hnodup : (all.map f).Nodup) : Function.Injective f := fun a b h =>
  List.inj_on_of_nodup_map hnodup (hall a) (hall b) h

lemma ItemKind.name_injective : Function.Injective name := by
  refine injective_of_nodup_map ?_ (by decide : (all.map name).Nodup)
  intro k
  cases k <;> decide

lemma RelocKind.name_injective : Function.Injective name := by
  refine injective_of_nodup_map ?_ (by decide : (all.map name).Nodup)
  intro k
  cases k <;> decide

lemma SymbolKind.name_injective : Function.Injective name := by
  refine injective_of_nodup_map ?_ (by decide : (all.map name).Nodup)
  intro k
  cases k <;> decide

lemma ComdatKind.code_injective : Function.Injective code := by
  refine injective_of_nodup_map ?_ (by decide : (all.map code).Nodup)
  intro k
  cases k <;> decide

lemma flagText_injective : Function.Injective flagText := by
  intro a b h
  cases a <;> cases b <;> first | rfl | exact absurd h (by decide)

namespace Primitive

lemma name_injective : Function.Injective name := by
  refine injective_of_nodup_map ?_ (by decide : (all.map name).Nodup)
  intro p
  cases p <;> decide

/-- No primitive type is called what all indices are called, and no name has a bracket. -/
lemma name_ne (p : Primitive) :
    p.name ≠ "<type index>" ∧ p.name ≠ "" ∧ '[' ∉ p.name.toList := by
  cases p <;> simp [name]

end Primitive

namespace ValType

/-- The primitive type that a type is, if it is one. -/
def primitive? : ValType → Option Primitive
  | .primitive p => some p
  | .index _ => none

/-- The name of a type tells which primitive type it is, but not which index. -/
lemma name_eq_iff (t u : ValType) : t.name = u.name ↔ t.primitive? = u.primitive? := by
  cases t with
  | primitive p =>
    cases u with
    | primitive q => exact Primitive.name_injective.eq_iff.trans Option.some_inj.symm
    | index n => exact iff_of_false p.name_ne.1 (Option.some_ne_none p)
  | index m =>
    cases u with
    | primitive q => exact iff_of_false q.name_ne.1.symm (Option.some_ne_none q).symm
    | index n => exact iff_of_true rfl rfl

/-- As part of a signature, the text of a type tells the type, index included. -/
lemma text_injective : Function.Injective text := by
  have hindex : ∀ (p : Primitive) (n : UInt32),
      p.name ≠ "funcidx[" ++ Numeral.decimal n.toNat ++ "]" := by
    intro p n h
    refine p.name_ne.2.2 ?_
    rw [h, String.toList_append, String.toList_append]
    simp
  intro t u h
  cases t with
  | primitive p =>
    cases u with
    | primitive q => exact congrArg _ (Primitive.name_injective h)
    | index n => exact absurd h (hindex p n)
  | index m =>
    cases u with
    | primitive q => exact absurd h.symm (hindex q m)
    | index n =>
      have hdecimal := (String.append_right_inj _).mp ((String.append_left_inj _).mp h)
      exact congrArg _ (UInt32.toNat_inj.mp (Numeral.decimal_injective hdecimal))

lemma item_text (t : ValType) : Item t.text := by
  refine ⟨?_, t.plain_text⟩
  cases t with
  | primitive p => exact p.name_ne.2.1
  | index n => simp [text]

/-- The text of a list of types tells the types. -/
lemma listText_injective : Function.Injective listText := by
  have hitems : ∀ ts : List ValType, ∀ item ∈ ts.map text, Item item := by
    intro ts item hitem
    obtain ⟨t, -, rfl⟩ := List.mem_map.mp hitem
    exact t.item_text
  intro ts us h
  exact text_injective.list_map ((bracketed_inj (hitems ts) (hitems us)).mp h)

end ValType

lemma Numeral.item_decimal (n : Nat) : Item (decimal n) := by
  refine ⟨?_, plain_decimal n⟩
  simp [decimal, Nat.toDigits_ne_nil]

/-- The text of a list of indices tells the indices. -/
lemma indicesText_injective : Function.Injective indicesText := by
  have hitems : ∀ ns : List UInt32, ∀ item ∈ ns.map (Numeral.decimal ·.toNat), Item item := by
    intro ns item hitem
    obtain ⟨n, -, rfl⟩ := List.mem_map.mp hitem
    exact Numeral.item_decimal n.toNat
  intro ms ns h
  have hdecimal : Function.Injective fun n : UInt32 => Numeral.decimal n.toNat := fun m n hmn =>
    UInt32.toNat_inj.mp (Numeral.decimal_injective hmn)
  exact hdecimal.list_map ((bracketed_inj (hitems ms) (hitems ns)).mp h)

/-- The text of limits tells both sizes, and whether there is a greatest one. -/
lemma Limits.text_eq_iff (l m : Limits) :
    l.text = m.text ↔ l.initial = m.initial ∧ l.max? = m.max? := by
  -- an initial size is plain, so it ends in front of the comma
  have hnone : ∀ i j n : Nat,
      Numeral.decimal i ≠ Numeral.decimal j ++ (", max: " ++ Numeral.decimal n) := by
    intro i j n h
    refine Numeral.plain_decimal i ',' ?_ (by decide)
    rw [h, String.toList_append, String.toList_append]
    simp
  have hsome : ∀ i j m n : Nat, Numeral.decimal i ++ (", max: " ++ Numeral.decimal m) =
      Numeral.decimal j ++ (", max: " ++ Numeral.decimal n) → i = j ∧ m = n := by
    intro i j m n h
    have hbytes := congrArg ofText h
    simp only [Bytes.ofText_append] at hbytes
    have hplain : ∀ k : Nat, ∀ b ∈ ofText (Numeral.decimal k), (b != comma) = true := by
      intro k b hb
      rw [bne_iff_ne]
      rintro rfl
      exact (Numeral.plain_decimal k).toUInt8_not_mem (c := ',') (by decide) hb
    have hinitial : ofText (Numeral.decimal i) = ofText (Numeral.decimal j) :=
      run_append_inj (by decide) (hplain i) (hplain j) hbytes
    rw [hinitial] at hbytes
    have hmax := List.append_cancel_left (List.append_cancel_left hbytes)
    exact ⟨Numeral.decimal_injective (ofText_injective hinitial),
      Numeral.decimal_injective (ofText_injective hmax)⟩
  obtain ⟨i, max?, _⟩ := l
  obtain ⟨j, max?', _⟩ := m
  dsimp only [text]
  rw [String.append_assoc, String.append_assoc, String.append_right_inj]
  cases max? with
  | none =>
    cases max?' with
    | none =>
      rw [String.append_empty, String.append_empty, Numeral.decimal_injective.eq_iff,
        UInt64.toNat_inj, and_iff_left rfl]
    | some n =>
      rw [String.append_empty]
      exact iff_of_false (hnone _ _ _) fun h => Option.some_ne_none n h.2.symm
  | some m =>
    cases max?' with
    | none =>
      rw [String.append_empty]
      exact iff_of_false (hnone _ _ _).symm fun h => Option.some_ne_none m h.2
    | some n =>
      rw [Option.some_inj]
      constructor
      · intro h
        obtain ⟨hi, hm⟩ := hsome _ _ _ _ h
        exact ⟨UInt64.toNat_inj.mp hi, UInt64.toNat_inj.mp hm⟩
      · rintro ⟨rfl, rfl⟩
        rfl

namespace Vec128

/-- A lane has eight digits. -/
lemma length_laneDigits (lane : UInt32) : (laneDigits lane).toList.length = 8 := by
  have hlength : (Nat.toDigits 16 lane.toNat).length ≤ 8 :=
    (Nat.length_toDigits_le_iff (by decide) (by decide)).mpr lane.toNat_lt
  rw [laneDigits, Numeral.hexPadded_length]
  omega

lemma laneDigits_injective : Function.Injective laneDigits := fun _ _ h =>
  UInt32.toNat_inj.mp (Numeral.hexPadded_injective 8 h)

/-- Digits of a lane in front of another text. -/
lemma laneDigits_append_inj {a b : UInt32} {s t : String}
    (h : laneDigits a ++ s = laneDigits b ++ t) : a = b ∧ s = t := by
  have hchars := congrArg String.toList h
  rw [String.toList_append, String.toList_append] at hchars
  obtain ⟨hdigits, hrest⟩ :=
    List.append_inj hchars ((length_laneDigits a).trans (length_laneDigits b).symm)
  exact ⟨laneDigits_injective (String.toList_inj.mp hdigits), String.toList_inj.mp hrest⟩

/-- Four lanes with a separator between them. -/
lemma joined_injective (separator : String) : Function.Injective fun v : Vec128 =>
    "0x" ++ laneDigits v.lane0 ++ separator ++ laneDigits v.lane1 ++ separator ++
      laneDigits v.lane2 ++ separator ++ laneDigits v.lane3 := by
  intro v w h
  simp only [String.append_assoc] at h
  obtain ⟨h0, h⟩ := laneDigits_append_inj ((String.append_right_inj _).mp h)
  obtain ⟨h1, h⟩ := laneDigits_append_inj ((String.append_right_inj _).mp h)
  obtain ⟨h2, h⟩ := laneDigits_append_inj ((String.append_right_inj _).mp h)
  have h3 := laneDigits_injective ((String.append_right_inj _).mp h)
  cases v
  cases w
  simp_all

/-- The text of a vector tells its lanes. -/
lemma lanesText_injective : Function.Injective lanesText := joined_injective " 0x"

/-- The text of a vector as the operand of a shuffle tells its lanes. -/
lemma shuffleText_injective : Function.Injective shuffleText := joined_injective " "

end Vec128

/-! ## Runs of plain bytes -/

namespace Bytes

/-- Whether a byte is not that of a mark. -/
def isPlain (b : UInt8) : Bool := marks.all (·.toUInt8 != b)

/-- Whether a byte is not that of a mark other than a comma. -/
def isListed (b : UInt8) : Bool := isPlain b || b == comma

/-- A byte is plain, or it is the byte of a mark. -/
lemma isPlain_or (b : UInt8) : isPlain b = true ∨ ∃ c ∈ marks, c.toUInt8 = b := by
  by_cases h : isPlain b = true
  · exact .inl h
  · right
    rw [isPlain, List.all_eq_true] at h
    push Not at h
    obtain ⟨c, hc, hb⟩ := h
    exact ⟨c, hc, by rwa [ne_eq, bne_iff_ne, not_not] at hb⟩

end Bytes

/-- A plain text is a run of plain bytes. -/
lemma Plain.isPlain {s : String} (h : Plain s) : ∀ b ∈ ofText s, Bytes.isPlain b = true := by
  intro b hb
  rcases Bytes.isPlain_or b with hplain | ⟨c, hc, rfl⟩
  · exact hplain
  · exact absurd hb (h.toUInt8_not_mem hc)

/-- A list of plain items is a run of plain bytes and commas. -/
lemma isListed_bracketed {items : List String} (h : ∀ item ∈ items, Plain item) :
    ∀ b ∈ ofText (bracketed items), Bytes.isListed b = true := by
  intro b hb
  rw [Bytes.isListed, Bool.or_eq_true]
  rcases Bytes.isPlain_or b with hplain | ⟨c, hc, rfl⟩
  · exact .inl hplain
  · have hmem := Bytes.mem_toList_of_mem_ofText (toNat_lt_of_mem_marks c hc) hb
    rw [eq_comma_of_mem_bracketed h hmem hc]
    exact .inr (by decide)

namespace Opcode

/-- The parts of the text of an opcode. -/
def pieces (o : Opcode) : List Bytes :=
  [ofText "\"", ofText o.mnemonic, ofText "\" (", ofText (Numeral.decimal o.code.toNat), ofText ")"]

/-- The shape of the text of an opcode.  A mnemonic can be any text, so its end is found from the
end of the text. -/
def shape : Shape :=
  [.fixed (ofText "\""), .run fun _ => true, .fixed (ofText "\" ("), .run Bytes.isPlain,
    .fixed (ofText ")")]

lemma fits_pieces (o : Opcode) : shape.Fits o.pieces :=
  .cons rfl <| .cons (fun _ _ => rfl) <| .cons rfl <|
    .cons (Numeral.plain_decimal o.code.toNat).isPlain <| .cons rfl .nil

/-- The text of an opcode tells the mnemonic and the code, but not the space of the code. -/
lemma text_eq_iff (o p : Opcode) : o.text = p.text ↔ o.mnemonic = p.mnemonic ∧ o.code = p.code := by
  constructor
  · intro h
    have hflatten : ∀ o : Opcode, ofText o.text = o.pieces.flatten := by
      intro o
      simp only [text, pieces, Bytes.ofText_append, List.flatten_cons, List.flatten_nil,
        List.append_assoc, List.append_nil]
    have hbytes : o.pieces.flatten = p.pieces.flatten := by
      rw [← hflatten, ← hflatten, h]
    have hpieces := Shape.eq_of_flatten_eq (by decide) o.fits_pieces p.fits_pieces hbytes
    simp only [pieces, List.cons.injEq, true_and, and_true] at hpieces
    exact ⟨ofText_injective hpieces.1,
      UInt32.toNat_inj.mp (Numeral.decimal_injective (ofText_injective hpieces.2))⟩
  · rintro ⟨hmnemonic, hcode⟩
    rw [text, text, hmnemonic, hcode]

end Opcode

/-! ## Styles -/

/-- What can be known of an argument from the way it is shown. -/
inductive Field where
  /-- All of it. -/
  | whole (t : ArgType) (value : t.Value)
  /-- The sizes of limits. -/
  | sizes (initial : UInt64) (max? : Option UInt64)
  /-- The mnemonic and the code of an opcode. -/
  | instruction (mnemonic : String) (code : UInt32)
  /-- Which primitive type a type is, if it is one. -/
  | primitive (p? : Option Primitive)
  /-- The length of a list. -/
  | length (n : Nat)

namespace Field

lemma whole_inj {t : ArgType} {v w : t.Value} : whole t v = whole t w ↔ v = w :=
  ⟨fun h => eq_of_heq (Field.whole.inj h).2, congrArg _⟩

end Field

namespace Style

/-- What a style tells of an argument.  Six digits do not tell a number in floating point, so there
only the text itself is told. -/
def field : {t : ArgType} → Style t → t.Value → Field
  | _, .float, bits => .whole .bytes (ofText (Binary32.text bits))
  | _, .wideFloat, bits => .whole .bytes (ofText (Binary64.text bits))
  | _, .size, bytes => .length bytes.length
  | _, .typeName, ty => .primitive ty.primitive?
  | _, .indexCount, ns => .length ns.length
  | _, .limits, l => .sizes l.initial l.max?
  | _, .opcode, o => .instruction o.mnemonic o.code
  | t, _, value => .whole t value

/-- The field of a style that tells all of an argument. -/
lemma render_eq_iff_whole {t : ArgType} (style : Style t) (h : Function.Injective style.render)
    (v w : t.Value) : style.render v = style.render w ↔ Field.whole t v = Field.whole t w :=
  h.eq_iff.trans Field.whole_inj.symm

/-- A number in two's complement is read in one way. -/
lemma toInt_toInt32_injective : Function.Injective fun n : UInt32 => n.toInt32.toInt :=
  fun _ _ h => congrArg Int32.toUInt32 (Int32.toInt_inj.mp h)

/-- **Two arguments are shown alike exactly if they agree in their field.** -/
theorem render_eq_iff {t : ArgType} (style : Style t) (v w : t.Value) :
    style.render v = style.render w ↔ style.field v = style.field w := by
  have htext : ∀ {α : Type} {f : α → String}, Function.Injective f →
      Function.Injective fun a => ofText (f a) := fun hf => ofText_injective.comp hf
  have hword : Function.Injective UInt32.toNat := fun _ _ => UInt32.toNat_inj.mp
  have hwide : Function.Injective UInt64.toNat := fun _ _ => UInt64.toNat_inj.mp
  have hcode : Function.Injective fun k : ComdatKind => k.code.toNat := fun _ _ h =>
    ComdatKind.code_injective (UInt8.toNat_inj.mp h)
  have hlength : ∀ m n : Nat,
      ofText (Numeral.decimal m) = ofText (Numeral.decimal n) ↔ Field.length m = .length n := by
    intro m n
    rw [(htext Numeral.decimal_injective).eq_iff, Field.length.injEq]
  have hwhole := @render_eq_iff_whole
  cases style with
  | decimal => exact hwhole .decimal (htext (Numeral.decimal_injective.comp hword)) v w
  | signed =>
    exact hwhole .signed (htext (Numeral.signed_injective.comp toInt_toInt32_injective)) v w
  | hex => exact hwhole .hex (htext (Numeral.hex_injective.comp hword)) v w
  | float => exact (Field.whole_inj (t := .bytes)).symm
  | wideDecimal => exact hwhole .wideDecimal (htext (Numeral.decimal_injective.comp hwide)) v w
  | wideHex => exact hwhole .wideHex (htext (Numeral.hex_injective.comp hwide)) v w
  | wideFloat => exact (Field.whole_inj (t := .bytes)).symm
  | flag => exact hwhole .flag (htext flagText_injective) v w
  | raw => exact (Field.whole_inj (t := .bytes)).symm
  | size => exact hlength _ _
  | typeName =>
    refine ofText_injective.eq_iff.trans ((ValType.name_eq_iff v w).trans ?_)
    exact (Field.primitive.injEq _ _).symm.to_iff
  | signature => exact hwhole .signature (htext ValType.text_injective) v w
  | typeList => exact hwhole .typeList (htext ValType.listText_injective) v w
  | indexList => exact hwhole .indexList (htext indicesText_injective) v w
  | indexCount => exact hlength _ _
  | limits =>
    refine ofText_injective.eq_iff.trans ((Limits.text_eq_iff v w).trans ?_)
    exact (Field.sizes.injEq _ _ _ _).symm.to_iff
  | opcode =>
    refine ofText_injective.eq_iff.trans ((Opcode.text_eq_iff v w).trans ?_)
    exact (Field.instruction.injEq _ _ _ _).symm.to_iff
  | lanes => exact hwhole .lanes (htext Vec128.lanesText_injective) v w
  | shuffle => exact hwhole .shuffle (htext Vec128.shuffleText_injective) v w
  | itemKind => exact hwhole .itemKind (htext ItemKind.name_injective) v w
  | relocKind => exact hwhole .relocKind (htext RelocKind.name_injective) v w
  | symbolKind => exact hwhole .symbolKind (htext SymbolKind.name_injective) v w
  | comdatKind => exact hwhole .comdatKind (htext (Numeral.decimal_injective.comp hcode)) v w

/-- Where an argument in a style may stand: names and mnemonics hold anything, and a list has the
commas between its items. -/
def part : {t : ArgType} → Style t → Part
  | _, .raw | _, .limits | _, .opcode => .run fun _ => true
  | _, .typeList | _, .indexList => .run Bytes.isListed
  | _, _ => .run Bytes.isPlain

/-- An argument in a style can stand where the style may. -/
lemma fits_render {t : ArgType} (style : Style t) (value : t.Value) :
    style.part.Fits (style.render value) := by
  cases style with
  | decimal => exact (Numeral.plain_decimal _).isPlain
  | signed => exact (Numeral.plain_signed _).isPlain
  | hex => exact (Numeral.plain_hex _).isPlain
  | float => exact (Binary32.plain_text _).isPlain
  | wideDecimal => exact (Numeral.plain_decimal _).isPlain
  | wideHex => exact (Numeral.plain_hex _).isPlain
  | wideFloat => exact (Binary64.plain_text _).isPlain
  | flag => exact (plain_flagText _).isPlain
  | raw => exact fun _ _ => rfl
  | size => exact (Numeral.plain_decimal _).isPlain
  | typeName => exact (ValType.plain_name _).isPlain
  | signature => exact (ValType.plain_text _).isPlain
  | typeList =>
    refine isListed_bracketed fun item hitem => ?_
    obtain ⟨t, -, rfl⟩ := List.mem_map.mp hitem
    exact t.plain_text
  | indexList =>
    refine isListed_bracketed fun item hitem => ?_
    obtain ⟨n, -, rfl⟩ := List.mem_map.mp hitem
    exact Numeral.plain_decimal n.toNat
  | indexCount => exact (Numeral.plain_decimal _).isPlain
  | limits => exact fun _ _ => rfl
  | opcode => exact fun _ _ => rfl
  | lanes => exact (Vec128.plain_lanesText _).isPlain
  | shuffle => exact (Vec128.plain_shuffleText _).isPlain
  | itemKind => exact (ItemKind.plain_name _).isPlain
  | relocKind => exact (RelocKind.plain_name _).isPlain
  | symbolKind => exact (SymbolKind.plain_name _).isPlain
  | comdatKind => exact (Numeral.plain_decimal _).isPlain

end Style

end WasmTrace
