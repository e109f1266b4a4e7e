import WasmTrace.Event
import WasmTrace.Proofs.Extent

/-!
# Numbers in floating point by way of scratch space

A number is rendered by way of two texts in scratch space.  The first pass writes it in scientific
notation, and its exponent is read back from there.  If the exponent is small enough, the second pass
writes the number in fixed notation.  A text that does not fit would let the number fail, and what
follows it would be missing from its line; a text without an exponent would be shown as it is.

The main statement is `Binary64.rendering_fits`: neither ever happens, whatever the pattern is and
however the texts are cut into parts.
-/

namespace WasmTrace

namespace Decimal

open Numeral (minus not_mem_minus readInt32? trimZeros)

/-- What comes of rendering a number. -/
inductive Rendering where
  /-- The number in its form. -/
  | regular (cs : List Char)
  /-- The text of the first pass as it is, since no exponent was found in it. -/
  | unread (cs : List Char)
  /-- Nothing, since a text did not fit. -/
  | failed

namespace Magnitude

/-- Renders a number by way of scratch space. -/
def render (v : Magnitude) (cut : Cut) (negative : Bool) : Rendering :=
  match Scratch.through? cut (v.scientific negative) with
  | none => .failed
  | some text =>
    match splitOnce? 'e' text with
    | none => .unread text
    | some (mantissa, exponent) =>
      match readInt32? exponent with
      | none => .unread text
      | some e =>
        if e < leastPositional ∨ leastExplicit ≤ e then
          .regular (trimZeros mantissa ++ exponentChars e)
        else
          match Scratch.through? cut (v.positional negative (fractionPlaces - e).toNat) with
          | none => .failed
          | some text => .regular (trimZeros text)

variable {v : Magnitude}

/-- **A number comes out in its form.** -/
theorem render_eq (hleast : -324 ≤ v.roundedExponent) (hgreatest : v.roundedExponent ≤ 308)
    (cut : Cut) (negative : Bool) :
    v.render cut negative = .regular (minus negative ++ v.sixDigits) := by
  have hsign : '.' ∉ minus negative := not_mem_minus (by decide) negative
  rw [render, (firstText hleast hgreatest negative).through]
  dsimp only
  rw [splitOnce?_scientific]
  dsimp only
  rw [readInt32?_roundedExponent hleast hgreatest]
  dsimp only
  by_cases hexplicit : v.roundedExponent < leastPositional ∨ leastExplicit ≤ v.roundedExponent
  · rw [if_pos hexplicit, v.wf_mantissa.trimZeros_chars hsign, sixDigits_eq_mantissa hexplicit,
      List.append_assoc]
  · rw [not_or, not_lt, not_le] at hexplicit
    obtain ⟨hfrom, hbelow⟩ := hexplicit
    have hsecond : Scratch.through? cut
        (v.positional negative (fractionPlaces - v.roundedExponent).toNat) =
          some (v.positional negative (5 - v.roundedExponent).toNat) :=
      (secondText hfrom hbelow negative).through cut
    rw [if_neg (not_or.mpr ⟨not_lt.mpr hfrom, not_le.mpr hbelow⟩), hsecond]
    dsimp only
    rw [positional, (v.wf_fixed _).trimZeros_chars hsign, sixDigits_eq_fixed hfrom hbelow]

end Magnitude

end Decimal

namespace Binary64

open Decimal (Magnitude Rendering)
open Numeral (minus)

/-- Renders a pattern.  A word or a zero needs no scratch space. -/
def render (cut : Cut) (bits : UInt64) : Rendering :=
  match value bits with
  | .nan => .regular (minus (isNegative bits) ++ "nan".toList)
  | .infinite => .regular (minus (isNegative bits) ++ "inf".toList)
  | .zero => .regular (minus (isNegative bits) ++ ['0'])
  | .finite v => v.render cut (isNegative bits)

/-- Every pattern is rendered as its text. -/
lemma render_eq_text (cut : Cut) (bits : UInt64) :
    render cut bits = .regular (text bits).toList := by
  rw [toList_text, render]
  cases hvalue : value bits with
  | nan => rfl
  | infinite => rfl
  | zero => rfl
  | finite v =>
    obtain ⟨hleast, hgreatest⟩ := exponent_bounds hvalue
    exact Magnitude.render_eq hleast hgreatest cut (isNegative bits)

end Binary64

/-! ## Lines -/

open Decimal (Rendering)

/-- The bytes of what was rendered, if anything was. -/
def Decimal.Rendering.bytes? : Rendering → Option Bytes
  | .regular cs => some (.ofText (.ofList cs))
  | .unread cs => some (.ofText (.ofList cs))
  | .failed => none

/-- The bytes of an argument shown in a style, unless it fails.  Only numbers in floating point need
scratch space. -/
def Style.shown? (cut : Cut) : {t : ArgType} → Style t → t.Value → Option Bytes
  | _, .float, bits => (Binary64.render cut (Binary32.widen bits)).bytes?
  | _, .wideFloat, bits => (Binary64.render cut bits).bytes?
  | _, style, x => some (style.render x)

/-- The bytes of a part of a layout, unless it fails. -/
def Segment.shown? {sig : Signature} (cut : Cut) (args : Args sig) : Segment sig → Option Bytes
  | .text s => some (.ofText s)
  | .field x style => style.shown? cut (args.get x)

/-- What is written of several parts: nothing from the first one on that fails. -/
def writtenParts : List (Option Bytes) → List Bytes
  | some part :: parts => part :: writtenParts parts
  | none :: _ => []
  | [] => []

/-- The line of an event, part by part, with its numbers rendered by way of scratch space.  If one of
them fails, the arguments from there on are missing, and the newline follows. -/
def Event.renderedLine (cut : Cut) (e : Event) : List Bytes :=
  .ofText e.kind.name :: writtenParts (e.kind.layout.map (·.shown? cut e.args)) ++ [[Bytes.newline]]

/-- Every argument is shown. -/
lemma Style.shown?_eq (cut : Cut) {t : ArgType} (style : Style t) (x : t.Value) :
    style.shown? cut x = some (style.render x) := by
  have hnumber : ∀ bits : UInt64,
      (Binary64.render cut bits).bytes? = some (.ofText (Binary64.text bits)) := by
    intro bits
    rw [Binary64.render_eq_text, Rendering.bytes?, String.ofList_toList]
  cases style with
  | float => exact hnumber (Binary32.widen x)
  | wideFloat => exact hnumber x
  | _ => rfl

/-- Every part of a layout is shown. -/
lemma Segment.shown?_eq {sig : Signature} (cut : Cut) (args : Args sig) (segment : Segment sig) :
    segment.shown? cut args = some (segment.render args) := by
  cases segment with
  | text s => rfl
  | field x style => exact style.shown?_eq cut (args.get x)

/-- Parts of which none fails are all written. -/
lemma writtenParts_map_some (parts : List Bytes) : writtenParts (parts.map some) = parts := by
  induction parts with
  | nil => rfl
  | cons part parts ih => rw [List.map_cons, writtenParts, ih]

/-- No line is cut short. -/
lemma Event.renderedLine_eq (cut : Cut) (e : Event) : e.renderedLine cut = e.line := by
  have hparts : e.kind.layout.map (·.shown? cut e.args) =
      (Layout.render e.kind.layout e.args).map some := by
    rw [Layout.render, List.map_map]
    exact List.map_congr_left fun segment _ => segment.shown?_eq cut e.args
  rw [renderedLine, hparts, writtenParts_map_some, line]

namespace Binary64

open Decimal (Magnitude)

/-- **Numbers fit into scratch space, and no line is cut short.**  The first pass writes a finite
number other than zero in scientific notation, with at most thirteen bytes, and its exponent is read
back; if the exponent is between `-4` and `5`, then the second pass writes at most nine places and
twelve bytes.  Both texts come through scratch space, however they are cut, and the number comes out
as its text, of at most thirteen bytes.  Hence every event is shown by its whole line, whatever
numbers are among its arguments. -/
theorem rendering_fits :
    (∀ (bits : UInt64) (x : ℚ), number? bits = some x → x ≠ 0 →
      ∃ v : Magnitude, value bits = .finite v ∧ v.toRat = |x| ∧
        v.FirstText (isNegative bits) ∧
        (-4 ≤ v.roundedExponent → v.roundedExponent < 6 → v.SecondText (isNegative bits)) ∧
        (∀ cut, render cut bits = .regular (text bits).toList) ∧
        (Bytes.ofText (text bits)).length ≤ 13) ∧
    ∀ (cut : Cut) (e : Event), e.renderedLine cut = e.line := by
  refine ⟨fun bits x hx hne => ?_, fun cut e => e.renderedLine_eq cut⟩
  obtain ⟨v, hvalue, rfl⟩ := exists_finite hx hne
  obtain ⟨hleast, hgreatest⟩ := exponent_bounds hvalue
  refine ⟨v, hvalue, (abs_sign_mul bits v.toRat_pos).symm,
    Magnitude.firstText hleast hgreatest _, fun hfrom hbelow => ?_, fun cut => ?_, ?_⟩
  · exact Magnitude.secondText hfrom hbelow _
  · exact render_eq_text cut bits
  · rw [text, hvalue]
    exact Magnitude.byteCount_sixDigits_le hleast hgreatest _

/-- The least number in absolute value has the longest text there is, with an exponent of three
digits and two minus signs. -/
theorem least_number_fits :
    number? 0x8000000000000001 = some (-2 ^ (-1074 : ℤ)) ∧ (-2 ^ (-1074 : ℤ) : ℚ) ≠ 0 ∧
      ∃ v : Magnitude, value 0x8000000000000001 = .finite v ∧
        byteCount (v.scientific true) ≤ 13 ∧ v.roundedExponent = -324 ∧
        render .whole 0x8000000000000001 = .regular "-4.94066e-324".toList := by
  have hnegative : isNegative 0x8000000000000001 = true := by decide
  have hnumber : number? 0x8000000000000001 = some (-2 ^ (-1074 : ℤ)) := by
    have hexponent : exponentField 0x8000000000000001 = 0 := by decide
    have hfraction : fractionField 0x8000000000000001 = 1 := by decide
    rw [number?, sign, hnegative, hexponent, hfraction, if_neg (by decide), if_pos rfl, if_pos rfl,
      Nat.cast_one, one_mul, neg_one_mul]
  have hne : (-2 ^ (-1074 : ℤ) : ℚ) ≠ 0 := neg_ne_zero.mpr (zpow_ne_zero _ (by norm_num))
  obtain ⟨v, hvalue, -, hfirst, -, hrender, -⟩ := rendering_fits.1 _ _ hnumber hne
  have hfinite : value 0x8000000000000001 = .finite (.ofBinary 1 (-1074) (by decide)) := by rfl
  rw [hnegative] at hfirst
  refine ⟨hnumber, hne, v, hvalue, hfirst.bytes, ?_, (hrender .whole).trans ?_⟩
  · obtain rfl := Value.finite.inj (hvalue.symm.trans hfinite)
    decide +kernel
  · have htext : text 0x8000000000000001 = "-4.94066e-324" := by decide +kernel
    rw [htext]

end Binary64

end WasmTrace
