import Mathlib.Data.List.Forall2
import Mathlib.Data.List.TakeWhile
import Mathlib.Tactic.Lemma
import WasmTrace.Text

/-!
# Shapes of texts

A text that is put together from fixed and variable parts can be taken apart again if one can tell
where each variable part ends.  Nothing is quoted or escaped here, so this is a matter of the parts
themselves: a variable part that is made of some bytes only ends in front of the next fixed part
that has a byte of another kind, and what is to the right of a part may be taken off from the end
of the text instead of its beginning.  The second way is needed for a part that can hold any bytes.

The main statement is `Shape.eq_of_flatten_eq`: two texts of one decodable shape are equal only if
all their parts are.
-/

namespace WasmTrace

/-- A part of a text, by what can stand in its place. -/
inductive Part where
  /-- One fixed text. -/
  | fixed (text : Bytes)
  /-- Any text that is made of allowed bytes only. -/
  | run (allowed : UInt8 → Bool)

/-- The parts of a text in order. -/
abbrev Shape := List Part

namespace Part

/-- Whether a text can stand in the place of a part. -/
def Fits : Part → Bytes → Prop
  | fixed text, piece => piece = text
  | run allowed, piece => ∀ b ∈ piece, allowed b = true

/-- The part that is fitted by the reversed texts. -/
def mirror : Part → Part
  | fixed text => fixed text.reverse
  | run allowed => run allowed

lemma Fits.reverse {part : Part} {piece : Bytes} (h : part.Fits piece) :
    part.mirror.Fits piece.reverse := by
  cases part with
  | fixed text => exact congrArg List.reverse h
  | run allowed => exact fun b hb => h b (List.mem_reverse.mp hb)

end Part

/-- A run of allowed bytes in front of a text with another byte ends at the same place in every
text that begins with such a run. -/
lemma run_append_inj {allowed : UInt8 → Bool} {stop x y u v : Bytes}
    (hstop : stop.any (!allowed ·) = true) (hx : ∀ b ∈ x, allowed b = true)
    (hy : ∀ b ∈ y, allowed b = true) (h : x ++ (stop ++ u) = y ++ (stop ++ v)) : x = y := by
  -- the allowed bytes in front of a text that begins with `stop` are those in front of `stop`
  have htake : ∀ rest, (stop ++ rest).takeWhile allowed = stop.takeWhile allowed := by
    intro rest
    obtain ⟨b, hb, hnot⟩ := List.any_eq_true.mp hstop
    rw [List.takeWhile_append, if_neg]
    intro hlength
    have hall : stop.takeWhile allowed = stop :=
      (List.takeWhile_prefix allowed).eq_of_length hlength
    have hallowed : allowed b = true := by
      rw [← hall] at hb
      exact List.mem_takeWhile_imp hb
    rw [hallowed] at hnot
    exact absurd hnot (by decide)
  have hrun := congrArg (List.takeWhile allowed) h
  rw [List.takeWhile_append_of_pos hx, List.takeWhile_append_of_pos hy, htake, htake] at hrun
  exact List.append_cancel_right hrun

namespace Shape

/-- Whether the next part is a fixed text with a byte that is not allowed. -/
def stops (allowed : UInt8 → Bool) : Shape → Bool
  | .fixed text :: _ => text.any (!allowed ·)
  | _ => false

/-- Whether a text can be taken apart from its beginning on, whatever follows it. -/
def selfDelimiting : Shape → Bool
  | [] => true
  | .fixed _ :: shape => selfDelimiting shape
  | .run allowed :: shape => stops allowed shape && selfDelimiting shape

/-- The shape of the reversed texts. -/
def mirror (shape : Shape) : Shape := (shape.map Part.mirror).reverse

/-- Whether a text can be taken apart: each run ends in front of the next part, or everything after
it can be taken off from the end. -/
def decodable : Shape → Bool
  | [] => true
  | .fixed _ :: shape => decodable shape
  | .run allowed :: shape => stops allowed shape && decodable shape || selfDelimiting (mirror shape)

/-- Whether texts fit the parts of a shape, one by one. -/
abbrev Fits (shape : Shape) (pieces : List Bytes) : Prop := List.Forall₂ Part.Fits shape pieces

variable {shape : Shape} {xs ys : List Bytes}

lemma Fits.reverse (h : Fits shape xs) : Fits (mirror shape) (xs.map List.reverse).reverse := by
  have hmap : List.Forall₂ Part.Fits (shape.map Part.mirror) (xs.map List.reverse) := by
    rw [List.forall₂_map_left_iff, List.forall₂_map_right_iff]
    exact h.imp fun _ _ hpart => hpart.reverse
  exact List.rel_reverse hmap

/-- A run in front of a shape that stops it ends at the same place in two equal texts. -/
lemma run_inj {allowed : UInt8 → Bool} {x y u v : Bytes} (hstops : stops allowed shape = true)
    (hx : ∀ b ∈ x, allowed b = true) (hy : ∀ b ∈ y, allowed b = true) (hxs : Fits shape xs)
    (hys : Fits shape ys) (h : x ++ (xs.flatten ++ u) = y ++ (ys.flatten ++ v)) : x = y := by
  cases hxs with
  | nil => exact absurd hstops Bool.false_ne_true
  | @cons part piece shape xs hpiece hxs =>
    obtain ⟨piece', ys, hpiece', hys, rfl⟩ := List.forall₂_cons_left_iff.mp hys
    cases part with
    | run allowed' => exact absurd hstops Bool.false_ne_true
    | fixed text =>
      obtain rfl : piece = text := hpiece
      obtain rfl : piece' = piece := hpiece'
      rw [List.flatten_cons, List.flatten_cons, List.append_assoc, List.append_assoc] at h
      exact run_append_inj hstops hx hy h

/-- Texts of a self-delimiting shape are taken apart in one way, and it is known what follows. -/
lemma append_inj (h : shape.selfDelimiting = true) (hxs : Fits shape xs) (hys : Fits shape ys)
    {u v : Bytes} (heq : xs.flatten ++ u = ys.flatten ++ v) : xs = ys ∧ u = v := by
  induction hxs generalizing ys with
  | nil =>
    cases hys
    exact ⟨rfl, heq⟩
  | @cons part x shape xs hx hxs ih =>
    obtain ⟨y, ys, hy, hrest, rfl⟩ := List.forall₂_cons_left_iff.mp hys
    rw [List.flatten_cons, List.flatten_cons, List.append_assoc, List.append_assoc] at heq
    cases part with
    | fixed text =>
      obtain rfl : x = text := hx
      obtain rfl : y = x := hy
      obtain ⟨rfl, rfl⟩ := ih h hrest (List.append_cancel_left heq)
      exact ⟨rfl, rfl⟩
    | run allowed =>
      rw [selfDelimiting, Bool.and_eq_true] at h
      obtain rfl : x = y := run_inj h.1 hx hy hxs hrest heq
      obtain ⟨rfl, rfl⟩ := ih h.2 hrest (List.append_cancel_left heq)
      exact ⟨rfl, rfl⟩

/-- What follows a run is taken off from the end of the text. -/
lemma run_inj_of_mirror {x y : Bytes} (h : shape.mirror.selfDelimiting = true)
    (hxs : Fits shape xs) (hys : Fits shape ys) (heq : x ++ xs.flatten = y ++ ys.flatten) :
    x = y ∧ xs = ys := by
  have hreverse : (xs.map List.reverse).reverse.flatten ++ x.reverse =
      (ys.map List.reverse).reverse.flatten ++ y.reverse := by
    rw [← List.reverse_flatten, ← List.reverse_flatten, ← List.reverse_append,
      ← List.reverse_append, heq]
  obtain ⟨hpieces, hrun⟩ := append_inj h hxs.reverse hys.reverse hreverse
  refine ⟨List.reverse_injective hrun, ?_⟩
  exact List.reverse_injective.list_map (List.reverse_injective hpieces)

/-- **A decodable shape is unambiguous**: two texts of the shape are equal only if all their parts
are. -/
theorem eq_of_flatten_eq (h : shape.decodable = true) (hxs : Fits shape xs) (hys : Fits shape ys)
    (heq : xs.flatten = ys.flatten) : xs = ys := by
  induction hxs generalizing ys with
  | nil =>
    cases hys
    rfl
  | @cons part x shape xs hx hxs ih =>
    obtain ⟨y, ys, hy, hrest, rfl⟩ := List.forall₂_cons_left_iff.mp hys
    rw [List.flatten_cons, List.flatten_cons] at heq
    cases part with
    | fixed text =>
      obtain rfl : x = text := hx
      obtain rfl : y = x := hy
      rw [ih h hrest (List.append_cancel_left heq)]
    | run allowed =>
      rw [decodable, Bool.or_eq_true, Bool.and_eq_true] at h
      rcases h with ⟨hstops, hshape⟩ | hmirror
      · have hfollowed : x ++ (xs.flatten ++ []) = y ++ (ys.flatten ++ []) := by
          rwa [List.append_nil, List.append_nil]
        obtain rfl : x = y := run_inj hstops hx hy hxs hrest hfollowed
        rw [ih hshape hrest (List.append_cancel_left heq)]
      · obtain ⟨rfl, rfl⟩ := run_inj_of_mirror hmirror hxs hrest heq
        rfl

end Shape

end WasmTrace
