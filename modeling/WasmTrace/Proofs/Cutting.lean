import Mathlib.Tactic.Lemma
import WasmTrace.Sink.LineSink
import WasmTrace.Text.Lossy

/-!
# Cutting at newlines

Bytes are cut at their newlines, and so are texts.  Lines that are joined again, each with its
newline, can be told apart as long as none of them contains a newline: this is `splitOn_terminated`,
for lists of anything.

Reading bytes as text is compatible with cutting.  The main statements are `decode_terminated`,
lines may be read one by one, and `newline_not_mem_decode`, reading makes no newline out of
anything else, whatever the bytes are.
-/

namespace WasmTrace

universe u

/-! ## Joining and splitting -/

/-- Pieces joined again, each followed by a separator. -/
def terminated {α : Type u} (separator : α) (pieces : List (List α)) : List α :=
  (pieces.map (· ++ [separator])).flatten

section Terminated

variable {α : Type u} (separator : α)

lemma terminated_cons (piece : List α) (pieces : List (List α)) :
    terminated separator (piece :: pieces) = piece ++ separator :: terminated separator pieces := by
  rw [terminated, List.map_cons, List.flatten_cons, List.append_assoc, List.singleton_append,
    terminated]

lemma terminated_append (pieces more : List (List α)) :
    terminated separator (pieces ++ more) =
      terminated separator pieces ++ terminated separator more := by
  rw [terminated, List.map_append, List.flatten_append, terminated, terminated]

/-- Pieces without a separator in them are found again by splitting, before the pieces of what
follows them. -/
lemma splitOn_terminated [BEq α] [LawfulBEq α] {pieces : List (List α)}
    (h : ∀ piece ∈ pieces, separator ∉ piece) (rest : List α) :
    (terminated separator pieces ++ rest).splitOn separator = pieces ++ rest.splitOn separator := by
  induction pieces with
  | nil => rfl
  | cons piece pieces ih =>
    obtain ⟨hpiece, hpieces⟩ := List.forall_mem_cons.mp h
    rw [terminated_cons, List.append_assoc, List.cons_append,
      List.splitOn_append_cons_self_of_not_mem hpiece, ih hpieces, List.cons_append]

/-- Pieces without a separator in them are joined in one way only. -/
lemma terminated_injective [BEq α] [LawfulBEq α] {pieces others : List (List α)}
    (h : ∀ piece ∈ pieces, separator ∉ piece) (hothers : ∀ piece ∈ others, separator ∉ piece)
    (heq : terminated separator pieces = terminated separator others) : pieces = others := by
  have hsplit := splitOn_terminated separator h []
  rw [heq, splitOn_terminated separator hothers] at hsplit
  exact (List.append_cancel_right hsplit).symm

end Terminated

/-! ## Bytes -/

namespace Bytes

/-- Neither the lines of a cut nor what follows them contain a newline. -/
lemma newline_not_mem_cut (bs : Bytes) :
    (∀ line ∈ (cut bs).1, newline ∉ line) ∧ newline ∉ (cut bs).2 := by
  induction bs with
  | nil => exact ⟨List.forall_mem_nil _, List.not_mem_nil⟩
  | cons b bs ih =>
    unfold cut
    rcases hcut : cut bs with ⟨lines, rest⟩
    rw [hcut] at ih
    obtain ⟨hlines, hrest⟩ := ih
    dsimp only
    split
    · exact ⟨List.forall_mem_cons.mpr ⟨List.not_mem_nil, hlines⟩, hrest⟩
    · next hb =>
      have hcons : ∀ {l : Bytes}, newline ∉ l → newline ∉ b :: l := fun h =>
        List.not_mem_cons_of_ne_of_not_mem (Ne.symm hb) h
      cases lines with
      | nil => exact ⟨List.forall_mem_nil _, hcons hrest⟩
      | cons line lines =>
        obtain ⟨hline, hlines⟩ := List.forall_mem_cons.mp hlines
        exact ⟨List.forall_mem_cons.mpr ⟨hcons hline, hlines⟩, hrest⟩

/-- Bytes that are empty or end with a newline. -/
def Complete (bs : Bytes) : Prop := bs = [] ∨ ∃ front, bs = front ++ [newline]

/-- Complete bytes may be followed by others. -/
lemma Complete.append {a b : Bytes} (ha : a.Complete) (hb : b.Complete) : (a ++ b).Complete := by
  rcases hb with rfl | ⟨front, rfl⟩
  · rwa [List.append_nil]
  · exact .inr ⟨a ++ front, (List.append_assoc a front [newline]).symm⟩

/-- Nothing without a newline follows the last newline of complete bytes. -/
lemma Complete.eq_nil {a rest : Bytes} (h : (a ++ rest).Complete) (hrest : newline ∉ rest) :
    rest = [] := by
  rcases h with hnil | ⟨front, hfront⟩
  · exact (List.append_eq_nil_iff.mp hnil).2
  · rcases List.eq_nil_or_concat rest with rfl | ⟨before, last, rfl⟩
    · rfl
    · rw [List.concat_eq_append, ← List.append_assoc] at hfront
      obtain rfl : last = newline := List.singleton_inj.mp (List.append_inj_right' hfront rfl)
      exact absurd (by simp) hrest

/-- Complete bytes are made of lines. -/
lemma Complete.exists_lines {bs : Bytes} (h : bs.Complete) :
    ∃ lines : List Bytes, (∀ line ∈ lines, newline ∉ line) ∧ bs = terminated newline lines := by
  obtain ⟨hlines, hrest⟩ := newline_not_mem_cut bs
  have hjoin : terminated newline (cut bs).1 ++ (cut bs).2 = bs := cut_join bs
  have hnil : (cut bs).2 = [] := by
    rw [← hjoin] at h
    exact h.eq_nil hrest
  rw [hnil, List.append_nil] at hjoin
  exact ⟨(cut bs).1, hlines, hjoin.symm⟩

end Bytes

/-! ## Texts -/

/-- The pieces of a text between its newlines, the last one being what follows the last newline. -/
def pieces (text : String) : List String := (text.toList.splitOn '\n').map String.ofList

namespace Lossy

/-- The text of bytes that are cut at a newline. -/
lemma text_append_newline (a b : Bytes) :
    text (a ++ Bytes.newline :: b) = text a ++ "\n" ++ text b := by
  have hchars : decode a ++ '\n' :: decode b = decode a ++ ['\n'] ++ decode b := by
    rw [List.append_assoc, List.singleton_append]
  rw [text, decode_append_newline, hchars, String.ofList_append, String.ofList_append]
  rfl

/-- Lines may be read one by one. -/
lemma decode_terminated (lines : List Bytes) (rest : Bytes) :
    decode (terminated Bytes.newline lines ++ rest) =
      terminated '\n' (lines.map decode) ++ decode rest := by
  induction lines with
  | nil => rfl
  | cons line lines ih =>
    rw [terminated_cons, List.append_assoc, List.cons_append, decode_append_newline, ih,
      List.map_cons, terminated_cons, List.append_assoc, List.cons_append]

/-- Inside a character of several bytes, the bytes so far and the range of the next one leave only
characters from 128 on: there are no longer forms of a newline. -/
def State.Long : State → Prop
  | .idle => True
  | .inside owed lowest _ scalar => 0x80 ≤ (scalar * 64 + (lowest.toNat - 0x80)) * Nat.pow 64 owed

/-- Only the number of a newline is read as a newline. -/
lemma ofNat_ne_newline {n : Nat} (h : n ≠ 10) : Char.ofNat n ≠ '\n' := by
  intro heq
  by_cases hvalid : n.isValidChar
  · have hchar : Char.ofNat n = Char.ofNatAux n hvalid := dif_pos hvalid
    rw [hchar] at heq
    exact h (congrArg Char.toNat heq)
  · have hchar : Char.ofNat n = '\x00' := dif_neg hvalid
    rw [hchar] at heq
    cases heq

/-- The first byte of a character leaves long characters only. -/
lemma first_long (b : UInt8) : (first b).1.Long := by
  have hge : ∀ {k : UInt8}, ¬ b < k → k.toNat ≤ b.toNat := fun h => UInt8.not_lt.mp h
  have hne : ∀ {k : UInt8}, b ≠ k → b.toNat ≠ k.toNat := fun h h' => h (UInt8.toNat_inj.mp h')
  unfold first
  split
  · trivial
  split
  · trivial
  split
  · -- a character of two bytes
    next h _ =>
    have : 0xC2 ≤ b.toNat := hge h
    change 0x80 ≤ ((b.toNat - 0xC0) * 64 + 0) * 1
    omega
  split
  · exact Nat.le_of_ble_eq_true rfl
  split
  · exact Nat.le_of_ble_eq_true rfl
  split
  · -- three bytes, after a first one that leaves every second one free
    next h h' _ _ =>
    have : 0xE0 ≤ b.toNat := hge h
    have : b.toNat ≠ 0xE0 := hne h'
    change 0x80 ≤ ((b.toNat - 0xE0) * 64 + 0) * 64
    omega
  split
  · exact Nat.le_of_ble_eq_true rfl
  split
  · -- four bytes, in the same way
    next h h' _ =>
    have : 0xF0 ≤ b.toNat := hge h
    have : b.toNat ≠ 0xF0 := hne h'
    change 0x80 ≤ ((b.toNat - 0xF0) * 64 + 0) * 4096
    omega
  split
  · exact Nat.le_of_ble_eq_true rfl
  · trivial

/-- A first byte other than a newline completes no newline. -/
lemma newline_not_mem_first {b : UInt8} (hb : b ≠ Bytes.newline) : '\n' ∉ (first b).2 := by
  have hne : b.toNat ≠ 10 := fun h => hb (UInt8.toNat_inj.mp h)
  have hreplaced : '\n' ∉ [replacement] := by decide
  unfold first
  split
  · exact fun h => ofNat_ne_newline hne (List.mem_singleton.mp h).symm
  · repeat' split
    all_goals first | exact hreplaced | exact List.not_mem_nil

/-- A byte other than a newline completes no newline, and leaves long characters only. -/
lemma State.step_long {s : State} (hs : s.Long) {b : UInt8} (hb : b ≠ Bytes.newline) :
    (s.step b).1.Long ∧ '\n' ∉ (s.step b).2 := by
  cases s with
  | idle => exact ⟨first_long b, newline_not_mem_first hb⟩
  | inside owed lowest highest scalar =>
    unfold State.step
    dsimp only
    split
    · next hrange =>
      have hle : lowest.toNat ≤ b.toNat := hrange.1
      -- the bits of the byte are at least those of the lowest one that may stand here
      have hscalar : 0x80 ≤ (scalar * 64 + (b.toNat - 0x80)) * Nat.pow 64 owed :=
        Nat.le_trans hs (Nat.mul_le_mul_right _ (by omega))
      cases owed with
      | zero =>
        have hlong : 0x80 ≤ (scalar * 64 + (b.toNat - 0x80)) * 1 := hscalar
        refine ⟨trivial, fun h => ?_⟩
        exact ofNat_ne_newline (by omega) (List.mem_singleton.mp h).symm
      | succ owed =>
        refine ⟨?_, List.not_mem_nil⟩
        have htail : tailLowest.toNat = 0x80 := rfl
        rw [State.Long, htail, Nat.sub_self, Nat.add_zero, Nat.mul_assoc, Nat.mul_comm 64]
        exact hscalar
    · refine ⟨first_long b, List.not_mem_cons_of_ne_of_not_mem (by decide) ?_⟩
      exact newline_not_mem_first hb

/-- Reading from a state that leaves long characters only makes no newline either. -/
lemma State.newline_not_mem_read {s : State} (hs : s.Long) {bs : Bytes}
    (h : Bytes.newline ∉ bs) : '\n' ∉ s.read bs := by
  induction bs generalizing s with
  | nil =>
    cases s with
    | idle => exact List.not_mem_nil
    | inside owed lowest highest scalar =>
      exact fun h => absurd (List.mem_singleton.mp h) (by decide)
  | cons b bs ih =>
    obtain ⟨hb, hbs⟩ := not_or.mp (mt List.mem_cons.mpr h)
    obtain ⟨hlong, hstep⟩ := State.step_long hs (Ne.symm hb)
    rw [State.read, List.mem_append, not_or]
    exact ⟨hstep, ih hlong hbs⟩

/-- **Bytes without a newline are read as a text without a newline**, unfinished and invalid bytes
included. -/
theorem newline_not_mem_decode {bs : Bytes} (h : Bytes.newline ∉ bs) : '\n' ∉ decode bs :=
  State.newline_not_mem_read (s := .idle) trivial h

/-- **The pieces of a text are the texts of its lines.** -/
theorem pieces_text {lines : List Bytes} {rest : Bytes}
    (hlines : ∀ line ∈ lines, Bytes.newline ∉ line) (hrest : Bytes.newline ∉ rest) :
    pieces (text (terminated Bytes.newline lines ++ rest)) = lines.map text ++ [text rest] := by
  have hchars : ∀ line ∈ lines.map decode, '\n' ∉ line := by
    intro line hline
    obtain ⟨bs, hbs, rfl⟩ := List.mem_map.mp hline
    exact newline_not_mem_decode (hlines bs hbs)
  rw [pieces, text, String.toList_ofList, decode_terminated, splitOn_terminated '\n' hchars,
    List.splitOn_eq_singleton (newline_not_mem_decode hrest), List.map_append, List.map_map]
  rfl

end Lossy

end WasmTrace
