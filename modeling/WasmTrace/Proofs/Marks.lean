import Mathlib.Tactic.ByContra
import Mathlib.Tactic.Lemma
import WasmTrace.Event.Line

/-!
# Marks and plain texts

The values of a line stand between parentheses, colons and commas, and a newline ends the line.
These characters are its marks.  A plain text has none of them: numerals in any notation, numbers
in floating point, names of types and of kinds, and vectors are plain, whatever is shown.  The text
of a list has commas, and no other mark.

A mark is the only character with its byte in its encoding, so it makes no difference here whether
a text is seen as characters or as bytes: `Bytes.eq_of_mem_utf8EncodeChar`.
-/

namespace WasmTrace

open Bytes (ofText)

/-! ## Characters and bytes -/

namespace Bytes

lemma toUInt8_ne_ofNat {d : Char} {n : Nat} (h : n % 256 ≠ d.val.toNat % 256) :
    d.toUInt8 ≠ UInt8.ofNat n := by
  intro heq
  have hnat := congrArg UInt8.toNat heq
  rw [UInt8.toNat_ofNat', Char.toUInt8, UInt32.toNat_toUInt8] at hnat
  exact h hnat.symm

/-- A character of one byte is the only one with that byte in its encoding. -/
lemma eq_of_mem_utf8EncodeChar {c d : Char} (hd : d.val.toNat < 0x80)
    (h : d.toUInt8 ∈ String.utf8EncodeChar c) : c = d := by
  by_contra hne
  have hval : c.val.toNat ≠ d.val.toNat := fun hc => hne (Char.ext (UInt32.toNat_inj.mp hc))
  suffices hnot : d.toUInt8 ∉ String.utf8EncodeChar c from hnot h
  unfold String.utf8EncodeChar
  dsimp only
  -- the only byte of a short encoding is the character, and those of a long one are at least 128
  split
  · rw [List.mem_singleton]
    exact toUInt8_ne_ofNat (by omega)
  split
  · simp only [List.mem_cons, List.not_mem_nil, or_false, not_or]
    exact ⟨toUInt8_ne_ofNat (by omega), toUInt8_ne_ofNat (by omega)⟩
  split
  · simp only [List.mem_cons, List.not_mem_nil, or_false, not_or]
    exact ⟨toUInt8_ne_ofNat (by omega), toUInt8_ne_ofNat (by omega), toUInt8_ne_ofNat (by omega)⟩
  · simp only [List.mem_cons, List.not_mem_nil, or_false, not_or]
    exact ⟨toUInt8_ne_ofNat (by omega), toUInt8_ne_ofNat (by omega), toUInt8_ne_ofNat (by omega),
      toUInt8_ne_ofNat (by omega)⟩

/-- A character of one byte is in a text if its byte is in the encoding. -/
lemma mem_toList_of_mem_ofText {s : String} {d : Char} (hd : d.val.toNat < 0x80)
    (h : d.toUInt8 ∈ ofText s) : d ∈ s.toList := by
  obtain ⟨c, hc, hbyte⟩ := List.mem_flatMap.mp h
  exact eq_of_mem_utf8EncodeChar hd hbyte ▸ hc

end Bytes

/-! ## Plain texts -/

/-- The characters that end a line or stand between its values. -/
def marks : List Char := ['\n', '(', ')', ':', ',']

/-- Every mark has an encoding of one byte. -/
lemma toNat_lt_of_mem_marks : ∀ c ∈ marks, c.val.toNat < 0x80 := by simp [marks]

/-- A text without marks. -/
def Plain (s : String) : Prop := ∀ c ∈ s.toList, c ∉ marks

namespace Plain

variable {s t : String}

lemma append (hs : Plain s) (ht : Plain t) : Plain (s ++ t) := by
  intro c hc
  rw [String.toList_append, List.mem_append] at hc
  exact hc.elim (hs c) (ht c)

lemma ofList {cs : List Char} (h : ∀ c ∈ cs, c ∉ marks) : Plain (String.ofList cs) := by
  rwa [Plain, String.toList_ofList]

/-- The byte of a mark is not in the encoding of a plain text. -/
lemma toUInt8_not_mem (h : Plain s) {c : Char} (hc : c ∈ marks) : c.toUInt8 ∉ ofText s :=
  fun hmem => h c (Bytes.mem_toList_of_mem_ofText (toNat_lt_of_mem_marks c hc) hmem) hc

end Plain

/-! ## Numerals -/

/-- No digit is a mark, in any base. -/
lemma digitChar_not_mem_marks (n : Nat) : n.digitChar ∉ marks := by
  simp only [marks, List.mem_cons, List.not_mem_nil, or_false, not_or]
  exact ⟨Nat.digitChar_ne _ (by decide), Nat.digitChar_ne _ (by decide),
    Nat.digitChar_ne _ (by decide), Nat.digitChar_ne _ (by decide), Nat.digitChar_ne _ (by decide)⟩

lemma not_mem_marks_of_mem_toDigits {b : Nat} (hb : 1 < b) (n : Nat) :
    ∀ c ∈ Nat.toDigits b n, c ∉ marks := by
  induction n using Nat.strongRecOn with
  | ind n ih =>
    intro c hc
    rw [Nat.toDigits_eq_if hb] at hc
    split at hc
    · exact List.mem_singleton.mp hc ▸ digitChar_not_mem_marks n
    · next hn =>
      have hlt : n / b < n := Nat.div_lt_self (by omega) hb
      rw [List.mem_append, List.mem_singleton] at hc
      rcases hc with hc | rfl
      · exact ih _ hlt c hc
      · exact digitChar_not_mem_marks _

lemma not_mem_marks_of_mem_leftpad {width : Nat} {cs : List Char} (h : ∀ c ∈ cs, c ∉ marks) :
    ∀ c ∈ cs.leftpad width '0', c ∉ marks := by
  intro c hc
  rw [List.leftpad, List.mem_append] at hc
  rcases hc with hc | hc
  · rw [List.eq_of_mem_replicate hc]
    decide
  · exact h c hc

namespace Numeral

lemma plain_decimal (n : Nat) : Plain (decimal n) :=
  .ofList (not_mem_marks_of_mem_toDigits (by decide) n)

lemma plain_hex (n : Nat) : Plain (hex n) := .ofList (not_mem_marks_of_mem_toDigits (by decide) n)

lemma plain_hexPadded (width n : Nat) : Plain (hexPadded width n) :=
  .ofList (not_mem_marks_of_mem_leftpad (not_mem_marks_of_mem_toDigits (by decide) n))

lemma plain_signed (i : Int) : Plain (signed i) := by
  unfold signed
  split
  · exact .append (by simp [Plain, marks]) (plain_decimal _)
  · exact plain_decimal _

lemma not_mem_marks_of_mem_lastDigits (width n : Nat) : ∀ c ∈ lastDigits width n, c ∉ marks := by
  induction width generalizing n with
  | zero => exact fun _ hc => absurd hc List.not_mem_nil
  | succ width ih =>
    intro c hc
    rw [lastDigits, List.mem_append, List.mem_singleton] at hc
    rcases hc with hc | rfl
    · exact ih _ c hc
    · exact digitChar_not_mem_marks _

end Numeral

/-! ## Numbers in floating point -/

namespace Decimal

open Numeral

/-- Units of a decimal place, trimmed and written out. -/
lemma not_mem_marks_of_mem_ofUnits (places n : Nat) :
    ∀ c ∈ (Positional.ofUnits places n).trimmed.chars, c ∉ marks := by
  have hwhole : ∀ c ∈ (Positional.ofUnits places n).trimmed.whole, c ∉ marks :=
    not_mem_marks_of_mem_toDigits (by decide) _
  have hfraction : ∀ c ∈ (Positional.ofUnits places n).trimmed.fraction, c ∉ marks := fun c hc =>
    not_mem_marks_of_mem_lastDigits places n c
      (List.mem_reverse.mp ((List.dropWhile_suffix _).mem (List.mem_reverse.mp hc)))
  intro c hc
  unfold Positional.chars at hc
  split at hc
  · exact hwhole c hc
  · rw [List.mem_append, List.mem_cons] at hc
    rcases hc with hc | rfl | hc
    · exact hwhole c hc
    · decide
    · exact hfraction c hc

lemma not_mem_marks_of_mem_exponentChars (e : Int) : ∀ c ∈ exponentChars e, c ∉ marks := by
  have hdigits : ∀ c ∈ (Nat.toDigits 10 e.natAbs).leftpad exponentWidth '0', c ∉ marks :=
    not_mem_marks_of_mem_leftpad (not_mem_marks_of_mem_toDigits (by decide) _)
  have hsign : (if e < 0 then '-' else '+') ∉ marks := by
    split <;> decide
  rw [exponentChars]
  exact List.forall_mem_cons.mpr ⟨by decide, List.forall_mem_cons.mpr ⟨hsign, hdigits⟩⟩

lemma not_mem_marks_of_mem_sixDigits (v : Magnitude) : ∀ c ∈ v.sixDigits, c ∉ marks := by
  unfold Magnitude.sixDigits
  dsimp only
  split
  · exact not_mem_marks_of_mem_ofUnits _ _
  · exact List.forall_mem_append.mpr
      ⟨not_mem_marks_of_mem_ofUnits _ _, not_mem_marks_of_mem_exponentChars _⟩

end Decimal

lemma Binary64.plain_text (bits : UInt64) : Plain (Binary64.text bits) := by
  refine .ofList (List.forall_mem_append.mpr ⟨?_, ?_⟩)
  · split <;> simp [marks]
  · cases value bits with
    | nan => simp [Value.chars, marks]
    | infinite => simp [Value.chars, marks]
    | zero => simp [Value.chars, marks]
    | finite v => exact Decimal.not_mem_marks_of_mem_sixDigits v

lemma Binary32.plain_text (bits : UInt32) : Plain (Binary32.text bits) :=
  Binary64.plain_text (widen bits)

/-! ## Names, types and vectors -/

lemma plain_flagText (b : Bool) : Plain (flagText b) := by
  cases b <;> simp [Plain, marks, flagText]

lemma ItemKind.plain_name (k : ItemKind) : Plain k.name := by
  cases k <;> simp [Plain, marks, name]

lemma RelocKind.plain_name (k : RelocKind) : Plain k.name := by
  cases k <;> simp [Plain, marks, name]

lemma SymbolKind.plain_name (k : SymbolKind) : Plain k.name := by
  cases k <;> simp [Plain, marks, name]

lemma Primitive.plain_name (p : Primitive) : Plain p.name := by
  cases p <;> simp [Plain, marks, name]

lemma ValType.plain_name (t : ValType) : Plain t.name := by
  cases t with
  | primitive p => exact p.plain_name
  | index n => simp [Plain, marks, name]

lemma ValType.plain_text (t : ValType) : Plain t.text := by
  cases t with
  | primitive p => exact p.plain_name
  | index n =>
    exact (Plain.append (by simp [Plain, marks]) (Numeral.plain_decimal _)).append
      (by simp [Plain, marks])

namespace Vec128

lemma plain_laneDigits (lane : UInt32) : Plain (laneDigits lane) :=
  Numeral.plain_hexPadded 8 lane.toNat

lemma plain_lanesText (v : Vec128) : Plain v.lanesText := by
  have hmark : Plain "0x" := by simp [Plain, marks]
  have hnext : Plain " 0x" := by simp [Plain, marks]
  have hfirst := hmark.append (plain_laneDigits v.lane0)
  have hsecond := (hfirst.append hnext).append (plain_laneDigits v.lane1)
  have hthird := (hsecond.append hnext).append (plain_laneDigits v.lane2)
  exact (hthird.append hnext).append (plain_laneDigits v.lane3)

lemma plain_shuffleText (v : Vec128) : Plain v.shuffleText := by
  have hmark : Plain "0x" := by simp [Plain, marks]
  have hnext : Plain " " := by simp [Plain, marks]
  have hfirst := hmark.append (plain_laneDigits v.lane0)
  have hsecond := (hfirst.append hnext).append (plain_laneDigits v.lane1)
  have hthird := (hsecond.append hnext).append (plain_laneDigits v.lane2)
  exact (hthird.append hnext).append (plain_laneDigits v.lane3)

end Vec128

/-! ## Lists -/

/-- The marks of a list are the commas between its items. -/
lemma eq_comma_of_mem_bracketed {items : List String} (h : ∀ item ∈ items, Plain item) {c : Char}
    (hc : c ∈ (bracketed items).toList) (hmark : c ∈ marks) : c = ',' := by
  have hjoined : ∀ items : List String, (∀ item ∈ items, Plain item) →
      c ∈ (", ".intercalate items).toList → c = ',' := by
    intro items h hc
    induction items with
    | nil => exact absurd hc List.not_mem_nil
    | cons item items ih =>
      obtain ⟨hitem, hitems⟩ := List.forall_mem_cons.mp h
      cases items with
      | nil =>
        rw [String.intercalate_singleton] at hc
        exact absurd hmark (hitem c hc)
      | cons next items =>
        rw [String.intercalate_cons_cons, String.toList_append, String.toList_append,
          List.mem_append, List.mem_append] at hc
        rcases hc with (hc | hc) | hc
        · exact absurd hmark (hitem c hc)
        · have hseparator : ∀ c ∈ ", ".toList, c ∈ marks → c = ',' := by
            simp [marks]
          exact hseparator c hc hmark
        · exact ih hitems hc
  rw [bracketed, String.toList_append, String.toList_append, List.mem_append, List.mem_append] at hc
  rcases hc with (hc | hc) | hc
  · have hopen : Plain "[" := by simp [Plain, marks]
    exact absurd hmark (hopen c hc)
  · exact hjoined items h hc
  · have hclose : Plain "]" := by simp [Plain, marks]
    exact absurd hmark (hclose c hc)

end WasmTrace
