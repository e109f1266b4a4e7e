import Mathlib.Data.List.Nodup
import Mathlib.Tactic.Lemma
import WasmTrace.Event.Vocabulary
import WasmTrace.Proofs.Prescription

/-!
# Names of kinds

A line is known by the name in front of it.  The names are words of letters, digits and
underscores, and no two kinds share one, so the kind of a line can be read off it.

What an event closes is a matter of names as well: a kind whose name begins with "Begin" is closed
by the kind that has the same name with "End" instead.  The main statement is
`Kind.closing?_eq_closingByName?`, the table of roles says the same.
-/

namespace WasmTrace

/-- In a table of everything, whose entries have different keys, a key is that of the entry found. -/
lemma find?_eq_some_iff_of_injective {α β : Type} [BEq β] [LawfulBEq β] {all : List α} {key : α → β}
    (hall : ∀ a, a ∈ all) (hkey : Function.Injective key) {b : β} {a : α} :
    all.find? (fun x => key x == b) = some a ↔ key a = b := by
  have hfound : ∀ {a : α}, all.find? (fun x => key x == b) = some a → key a = b := by
    intro a h
    have hbeq := List.find?_some h
    exact eq_of_beq hbeq
  refine ⟨hfound, fun h => ?_⟩
  have hsome : (all.find? fun x => key x == b).isSome :=
    List.find?_isSome.mpr ⟨a, hall a, beq_iff_eq.mpr h⟩
  obtain ⟨a', ha'⟩ := Option.isSome_iff_exists.mp hsome
  rw [ha', hkey ((hfound ha').trans h.symm)]

namespace Bytes

/-- The encoding of a text is what the text holds. -/
lemma ofText_eq_toByteArray (s : String) : ofText s = s.toByteArray.data.toList := by
  have h : (String.ofList s.toList).toByteArray = (ofText s).toByteArray :=
    String.toByteArray_ofList
  rw [String.ofList_toList] at h
  rw [h, List.data_toByteArray]

/-- Whether a byte is a letter, a digit or an underscore. -/
def isWord (b : UInt8) : Bool :=
  (48 ≤ b && b ≤ 57) || (65 ≤ b && b ≤ 90) || b == 95 || (97 ≤ b && b ≤ 122)

/-- Bytes as the digits of one number, with a one in front. -/
def code (bs : Bytes) : Nat := bs.foldl (fun n b => 256 * n + b.toNat) 1

end Bytes

namespace Kind

open Bytes (ofText)

/-- The list of all kinds is complete. -/
lemma mem_all (k : Kind) : k ∈ all := by
  have h : all[k.ctorIdx]? = some k := by cases k <;> rfl
  exact List.mem_of_getElem? h

/-- What holds of all kinds in the list holds of every kind. -/
lemma forall_of_forall_mem_all {P : Kind → Prop} (h : ∀ k ∈ all, P k) (k : Kind) : P k :=
  h k k.mem_all

/-- Names are words. -/
lemma isWord_of_mem_name (k : Kind) : ∀ b ∈ ofText k.name, Bytes.isWord b = true := by
  -- the bytes of each name are tested one by one; as it stands, this is decided for all 256 bytes
  rw [Bytes.ofText_eq_toByteArray, ← List.all_eq_true]
  revert k
  refine forall_of_forall_mem_all ?_
  decide +kernel

/-- No name is empty. -/
lemma name_ne_nil (k : Kind) : ofText k.name ≠ [] := by
  rw [Bytes.ofText_eq_toByteArray]
  revert k
  refine forall_of_forall_mem_all ?_
  decide +kernel

/-- No two kinds share a name.  Names are compared as numbers, which takes one step for a pair. -/
lemma nodup_names : (all.map fun k => ofText k.name).Nodup := by
  refine List.Nodup.of_map Bytes.code ?_
  simp only [List.map_map, Function.comp_def, Bytes.ofText_eq_toByteArray]
  decide +kernel

/-- A kind is known by its name. -/
lemma name_injective : Function.Injective fun k : Kind => ofText k.name :=
  fun k l h => List.inj_on_of_nodup_map nodup_names k.mem_all l.mem_all h

/-- The kind with a name. -/
def ofName? (name : Bytes) : Option Kind := all.find? fun k => ofText k.name == name

/-- The kind of a name is found again. -/
lemma ofName?_name (k : Kind) : ofName? (ofText k.name) = some k :=
  (find?_eq_some_iff_of_injective mem_all name_injective).mpr rfl

/-! ## Closing by name -/

/-- What follows a word at the beginning of the name of a kind. -/
def nameAfter? (word : String) (k : Kind) : Option Bytes :=
  (ofText word).isPrefixOf? (ofText k.name)

/-- The kind that closes what a kind opens, found by its name. -/
def closingByName? (k : Kind) : Option Kind :=
  if Prescribed.category k = .opening then
    (k.nameAfter? "Begin").bind fun rest =>
      all.find? fun l => Prescribed.category l == .closing && l.nameAfter? "End" == some rest
  else none

/-- **The roles and the names say the same about what closes what.** -/
theorem closing?_eq_closingByName? (k : Kind) : k.closing? = k.closingByName? := by
  simp only [closingByName?, nameAfter?, Bytes.ofText_eq_toByteArray]
  revert k
  refine forall_of_forall_mem_all ?_
  decide +kernel

/-- What a kind opens is closed by a kind that closes a level. -/
lemma role_of_closing? {k l : Kind} (h : k.closing? = some l) :
    k.role = .opens l ∧ l.role = .closes := by
  have hcloses : ∀ k l : Kind, k.role = .opens l → l.role = .closes := by
    intro k l hk
    cases k <;> first | cases hk; rfl | cases hk
  unfold closing? at h
  split at h
  · next closing hrole =>
    rw [Option.some.inj h] at hrole
    exact ⟨hrole, hcloses k l hrole⟩
  · cases h

/-- Exactly the kinds that open a level are closed by one. -/
lemma exists_closing?_iff (k : Kind) :
    (∃ l, k.closing? = some l) ↔ Prescribed.category k = .opening := by
  rw [← category_role, closing?]
  cases k.role with
  | opens closing => exact iff_of_true ⟨closing, rfl⟩ rfl
  | closes => exact iff_of_false (fun ⟨_, h⟩ => by cases h) (by decide)
  | leaf => exact iff_of_false (fun ⟨_, h⟩ => by cases h) (by decide)
  | silent => exact iff_of_false (fun ⟨_, h⟩ => by cases h) (by decide)

/-- A name with a word in front is made of the word and what follows it. -/
lemma nameAfter?_eq_some {word : String} {k : Kind} {rest : Bytes}
    (h : k.nameAfter? word = some rest) : ofText k.name = ofText word ++ rest :=
  (List.isPrefixOf?_eq_some_iff_append_eq.mp h).symm

/-- No two kinds are closed by the same kind: their names are "Begin" and what follows "End" in
its name. -/
lemma eq_of_closing?_eq {k k' l : Kind} (h : k.closing? = some l) (h' : k'.closing? = some l) :
    k = k' := by
  have hname : ∀ {k : Kind}, k.closing? = some l →
      ∃ rest, l.nameAfter? "End" = some rest ∧ ofText k.name = ofText "Begin" ++ rest := by
    intro k hk
    rw [closing?_eq_closingByName?, closingByName?] at hk
    split at hk
    · obtain ⟨rest, hrest, hfind⟩ := Option.bind_eq_some_iff.mp hk
      have hl := List.find?_some hfind
      rw [Bool.and_eq_true] at hl
      exact ⟨rest, eq_of_beq hl.2, nameAfter?_eq_some hrest⟩
    · cases hk
  obtain ⟨rest, hl, hk⟩ := hname h
  obtain ⟨rest', hl', hk'⟩ := hname h'
  obtain rfl : rest = rest' := Option.some.inj (hl.symm.trans hl')
  exact name_injective (hk.trans hk'.symm)

end Kind

end WasmTrace
