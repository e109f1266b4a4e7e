import Mathlib.Data.List.Basic
import WasmTrace.Proofs.Marks
import WasmTrace.Proofs.Prescription
import WasmTrace.Proofs.ValidText

/-!
# Lists read back

A list stands in brackets, with a comma and a space between its items.  Its entries are found again
by cutting at the commas, as long as no item has a comma in it and none is empty: a list of one
empty item would look like a list without items.

The main statements are `entries_separated`, the entries of a list are its items, and
`bracketed_inj`, a list in brackets has one reading.
-/

namespace WasmTrace

open Bytes (ofText space)
open Prescribed (separated)

namespace Bytes

/-- The byte between the items of a list. -/
def comma : UInt8 := 44

/-- The entries of what stands between the brackets of a list: none if nothing stands there,
otherwise what is between the commas, without the space that follows each comma. -/
def entries (inside : Bytes) : List Bytes :=
  if inside = [] then []
  else
    match inside.splitOn comma with
    | [] => []
    | first :: others => first :: others.map (·.drop 1)

/-- No two texts have the same encoding. -/
lemma ofText_injective : Function.Injective ofText := fun s t h => by
  rw [← Lossy.text_ofText s, h, Lossy.text_ofText]

end Bytes

open Bytes (comma entries ofText_injective)

/-! ## Entries -/

lemma cons_separated (separator : String) (b : UInt8) (item : Bytes) (items : List Bytes) :
    b :: separated separator (item :: items) = separated separator ((b :: item) :: items) := by
  cases items <;> rfl

/-- A byte of joined texts is one of a text or one of a separator. -/
lemma mem_separated {separator : String} {b : UInt8} {items : List Bytes}
    (h : b ∈ separated separator items) : b ∈ ofText separator ∨ ∃ item ∈ items, b ∈ item := by
  induction items with
  | nil => exact absurd h List.not_mem_nil
  | cons item items ih =>
    cases items with
    | nil => exact .inr ⟨item, List.mem_singleton_self item, h⟩
    | cons next items =>
      rw [Prescribed.separated_cons_cons, List.mem_append, List.mem_append] at h
      rcases h with (hitem | hseparator) | hrest
      · exact .inr ⟨item, List.mem_cons_self, hitem⟩
      · exact .inl hseparator
      · rcases ih hrest with hseparator | ⟨other, hother, hb⟩
        · exact .inl hseparator
        · exact .inr ⟨other, List.mem_cons_of_mem item hother, hb⟩

/-- Cutting at the commas leaves a space in front of each item but the first. -/
lemma splitOn_separated {item : Bytes} {items : List Bytes} (hitem : comma ∉ item)
    (hitems : ∀ item ∈ items, comma ∉ item) :
    (separated ", " (item :: items)).splitOn comma = item :: items.map (space :: ·) := by
  induction items generalizing item with
  | nil => exact List.splitOn_eq_singleton hitem
  | cons next items ih =>
    obtain ⟨hnext, hitems⟩ := List.forall_mem_cons.mp hitems
    have hspace : comma ∉ space :: next := by
      rw [List.mem_cons]
      exact not_or.mpr ⟨by decide, hnext⟩
    have hseparator : ofText ", " = [comma, space] := by decide
    rw [Prescribed.separated_cons_cons, hseparator, List.append_assoc, List.cons_append,
      List.singleton_append, List.splitOn_append_cons_self_of_not_mem hitem, cons_separated,
      ih hspace hitems]
    rfl

/-- Nothing stands between the brackets only if there are no items. -/
lemma separated_ne_nil {item : Bytes} (hitem : item ≠ []) (items : List Bytes) :
    separated ", " (item :: items) ≠ [] := by
  obtain ⟨b, bs, rfl⟩ := List.exists_cons_of_ne_nil hitem
  rw [← cons_separated]
  exact List.cons_ne_nil _ _

/-- **The entries of a list are its items.** -/
theorem entries_separated {items : List Bytes} (h : ∀ item ∈ items, item ≠ [] ∧ comma ∉ item) :
    entries (separated ", " items) = items := by
  cases items with
  | nil => rfl
  | cons item items =>
    obtain ⟨⟨hne, hitem⟩, hitems⟩ := List.forall_mem_cons.mp h
    rw [entries, if_neg (separated_ne_nil hne items),
      splitOn_separated hitem fun item hmem => (hitems item hmem).2]
    dsimp only
    rw [List.map_map]
    exact congrArg _ (List.map_id items)

/-! ## Lists in brackets -/

/-- A text can be an item of a list. -/
def Item (s : String) : Prop := s ≠ "" ∧ Plain s

lemma Item.entry {s : String} (h : Item s) : ofText s ≠ [] ∧ comma ∉ ofText s := by
  refine ⟨fun hnil => h.1 (ofText_injective hnil), ?_⟩
  exact h.2.toUInt8_not_mem (c := ',') (by decide)

/-- The entries between the brackets are the items. -/
lemma entries_items {items : List String} (h : ∀ item ∈ items, Item item) :
    entries (separated ", " (items.map ofText)) = items.map ofText := by
  refine entries_separated fun item hmem => ?_
  obtain ⟨s, hs, rfl⟩ := List.mem_map.mp hmem
  exact (h s hs).entry

/-- **A list in brackets has one reading.** -/
theorem bracketed_inj {items others : List String} (h : ∀ item ∈ items, Item item)
    (hothers : ∀ item ∈ others, Item item) : bracketed items = bracketed others ↔ items = others := by
  refine ⟨fun heq => ?_, congrArg _⟩
  have hbytes := congrArg ofText heq
  rw [Prescribed.ofText_bracketed, Prescribed.ofText_bracketed, Prescribed.list, Prescribed.list]
    at hbytes
  have hinside : separated ", " (items.map ofText) = separated ", " (others.map ofText) :=
    List.append_cancel_left (List.append_cancel_right hbytes)
  have hentries := congrArg entries hinside
  rw [entries_items h, entries_items hothers] at hentries
  exact ofText_injective.list_map hentries

end WasmTrace
