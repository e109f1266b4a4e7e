import Mathlib.Tactic.Lemma
import WasmTrace.Proofs.Marks
import WasmTrace.Proofs.Names

/-!
# Strings that are shown as they are

Most of what a line of the trace shows cannot break it, whatever the arguments are.  Plain texts
have no marks at all, so they are on one line, and so are lists of plain texts and limits, whose
marks are commas and colons.

Which strings a line shows as they are is written down kind by kind: names of the binary, and the
mnemonics of instructions.  The names of imported items, the data of segments and the texts of
errors are arguments too, but no line shows them.

The main statement is `Event.count_newline_line`: the newlines of a line are the one at its end and
those inside the strings that it shows as they are.
-/

namespace WasmTrace

open Bytes (newline ofText)

/-! ## Texts on one line -/

/-- A text without a newline. -/
def OneLine (s : String) : Prop := '\n' ∉ s.toList

namespace OneLine

variable {s t : String}

/-- The encoding of a text on one line has no newline in it. -/
lemma newline_not_mem (h : OneLine s) : newline ∉ ofText s := fun hmem =>
  h (Bytes.mem_toList_of_mem_ofText (d := '\n') (by decide) hmem)

/-- A text is on one line if its encoding has no newline in it. -/
lemma of_newline_not_mem (h : newline ∉ ofText s) : OneLine s := fun hmem =>
  h (List.mem_flatMap.mpr ⟨'\n', hmem, by decide⟩)

lemma count_newline (h : OneLine s) : (ofText s).count newline = 0 :=
  List.count_eq_zero.mpr h.newline_not_mem

lemma append (hs : OneLine s) (ht : OneLine t) : OneLine (s ++ t) := by
  rw [OneLine, String.toList_append, List.mem_append]
  exact not_or.mpr ⟨hs, ht⟩

end OneLine

/-- A plain text is on one line. -/
lemma Plain.oneLine {s : String} (h : Plain s) : OneLine s := fun hmem => h '\n' hmem (by decide)

/-! ## Lists and limits -/

/-- A list of plain items is on one line. -/
lemma OneLine.bracketed {items : List String} (h : ∀ item ∈ items, Plain item) :
    OneLine (bracketed items) := fun hmem =>
  absurd (eq_comma_of_mem_bracketed h hmem (by decide)) (by decide)

lemma ValType.oneLine_listText (ts : List ValType) : OneLine (ValType.listText ts) := by
  refine .bracketed fun item hitem => ?_
  obtain ⟨t, -, rfl⟩ := List.mem_map.mp hitem
  exact t.plain_text

lemma oneLine_indicesText (ns : List UInt32) : OneLine (indicesText ns) := by
  refine .bracketed fun item hitem => ?_
  obtain ⟨n, -, rfl⟩ := List.mem_map.mp hitem
  exact Numeral.plain_decimal _

lemma Limits.oneLine_text (l : Limits) : OneLine l.text := by
  refine (OneLine.append (by simp [OneLine]) (Numeral.plain_decimal _).oneLine).append ?_
  split
  · simp [OneLine]
  · exact .append (by simp [OneLine]) (Numeral.plain_decimal _).oneLine

/-! ## Strings -/

/-- The function of all arguments of a signature that looks at none of them. -/
def Signature.constant {β : Type} (b : β) : (sig : Signature) → sig.Fun β
  | [] => b
  | _ :: sig => fun _ => constant b sig

namespace Prescribed

/-- The strings that a line shows as they are, kind by kind. -/
def strings : (k : Kind) → k.signature.Fun (List Bytes)
  | .beginCustomSection => fun _ name => [name]
  | .onImport => fun _ module field => [module, field]
  | .onExport => fun _ _ _ name => [name]
  | .onModuleName => fun name => [name]
  | .onFunctionName => fun _ name => [name]
  | .onLocalName => fun _ _ name => [name]
  | .onDylinkNeeded => fun name => [name]
  | .onDataSymbol => fun _ _ name _ _ _ => [name]
  | .onFunctionSymbol | .onGlobalSymbol | .onEventSymbol => fun _ _ name _ => [name]
  | .onSegmentInfo => fun _ name _ _ => [name]
  | .onComdatBegin => fun name _ _ => [name]
  | .onAtomicLoadExpr | .onAtomicStoreExpr | .onAtomicRmwExpr | .onAtomicRmwCmpxchgExpr
  | .onAtomicWaitExpr | .onAtomicNotifyExpr | .onLoadExpr
  | .onStoreExpr => fun instruction _ _ => [ofText instruction.mnemonic]
  | .onUnaryExpr | .onBinaryExpr | .onCompareExpr | .onConvertExpr
  | .onTernaryExpr => fun instruction => [ofText instruction.mnemonic]
  | k => k.signature.constant []

end Prescribed

/-! ## Layouts -/

/-- The strings that an argument in a style shows as they are. -/
def Style.strings : {t : ArgType} → Style t → t.Value → List Bytes
  | _, .raw, bytes => [bytes]
  | _, .opcode, o => [ofText o.mnemonic]
  | _, _, _ => []

/-- An argument in a style has no newlines but those of its strings. -/
lemma Style.count_newline_render {t : ArgType} (style : Style t) (value : t.Value) :
    (style.render value).count newline = (style.strings value).flatten.count newline := by
  cases style with
  | decimal => exact (Numeral.plain_decimal _).oneLine.count_newline
  | signed => exact (Numeral.plain_signed _).oneLine.count_newline
  | hex => exact (Numeral.plain_hex _).oneLine.count_newline
  | float => exact (Binary32.plain_text _).oneLine.count_newline
  | wideDecimal => exact (Numeral.plain_decimal _).oneLine.count_newline
  | wideHex => exact (Numeral.plain_hex _).oneLine.count_newline
  | wideFloat => exact (Binary64.plain_text _).oneLine.count_newline
  | flag => exact (plain_flagText _).oneLine.count_newline
  | raw => rw [strings, List.flatten_singleton]; rfl
  | size => exact (Numeral.plain_decimal _).oneLine.count_newline
  | typeName => exact (ValType.plain_name _).oneLine.count_newline
  | signature => exact (ValType.plain_text _).oneLine.count_newline
  | typeList => exact (ValType.oneLine_listText _).count_newline
  | indexList => exact (oneLine_indicesText _).count_newline
  | indexCount => exact (Numeral.plain_decimal _).oneLine.count_newline
  | limits => exact (Limits.oneLine_text _).count_newline
  | opcode =>
    have hquote : OneLine "\"" := by simp [OneLine]
    have hcode : OneLine "\" (" := by simp [OneLine]
    have hend : OneLine ")" := by simp [OneLine]
    rw [strings, List.flatten_singleton, render, Opcode.text, Bytes.ofText_append,
      Bytes.ofText_append, Bytes.ofText_append, Bytes.ofText_append, List.count_append,
      List.count_append, List.count_append, List.count_append, hquote.count_newline,
      hcode.count_newline, (Numeral.plain_decimal _).oneLine.count_newline, hend.count_newline,
      Nat.zero_add, Nat.add_zero]
  | lanes => exact (Vec128.plain_lanesText _).oneLine.count_newline
  | shuffle => exact (Vec128.plain_shuffleText _).oneLine.count_newline
  | itemKind => exact (ItemKind.plain_name _).oneLine.count_newline
  | relocKind => exact (RelocKind.plain_name _).oneLine.count_newline
  | symbolKind => exact (SymbolKind.plain_name _).oneLine.count_newline
  | comdatKind => exact (Numeral.plain_decimal _).oneLine.count_newline

namespace Layout

variable {sig : Signature}

/-- The fixed texts of a layout. -/
def texts (layout : Layout sig) : List String :=
  layout.filterMap fun
    | .text s => some s
    | .field _ _ => none

/-- The strings that a layout shows as they are. -/
def strings (layout : Layout sig) (args : Args sig) : List Bytes :=
  layout.flatMap fun
    | .text _ => []
    | .field x style => style.strings (args.get x)

lemma strings_text (s : String) (layout : Layout sig) (args : Args sig) :
    Layout.strings (.text s :: layout) args = layout.strings args := rfl

lemma strings_field {t : ArgType} (x : Slot sig t) (style : Style t) (layout : Layout sig)
    (args : Args sig) :
    Layout.strings (.field x style :: layout) args =
      style.strings (args.get x) ++ layout.strings args := rfl

/-- A layout whose fixed texts are on one line has no newlines but those of its strings. -/
lemma count_newline_render {layout : Layout sig} (h : ∀ s ∈ layout.texts, OneLine s)
    (args : Args sig) :
    (layout.render args).flatten.count newline = (layout.strings args).flatten.count newline := by
  induction layout with
  | nil => rfl
  | cons segment layout ih =>
    cases segment with
    | text s =>
      obtain ⟨hs, hrest⟩ := List.forall_mem_cons.mp h
      rw [flatten_render_text, List.count_append, hs.count_newline, ih hrest, Nat.zero_add,
        strings_text]
    | field x style =>
      rw [flatten_render_field, List.count_append, style.count_newline_render, ih h,
        strings_field, List.flatten_append, List.count_append]

end Layout

namespace Kind

/-- The fixed texts of all layouts are on one line. -/
lemma oneLine_of_mem_texts (k : Kind) : ∀ s ∈ k.layout.texts, OneLine s := by
  suffices h : ∀ s ∈ k.layout.texts, newline ∉ ofText s from
    fun s hs => .of_newline_not_mem (h s hs)
  simp only [Bytes.ofText_eq_toByteArray]
  revert k
  refine forall_of_forall_mem_all ?_
  decide +kernel

/-- Names are on one line. -/
lemma oneLine_name (k : Kind) : OneLine k.name := by
  refine .of_newline_not_mem fun hmem => ?_
  exact absurd (k.isWord_of_mem_name _ hmem) (by decide)

/-- The layout of each kind shows the strings that are prescribed for the kind. -/
lemma strings_layout (k : Kind) (args : Args k.signature) :
    k.layout.strings args = args.apply (Prescribed.strings k) := by
  cases k
  all_goals rcases args with _ | ⟨a, _ | ⟨b, _ | ⟨c, _ | ⟨d, _ | ⟨e, _ | ⟨f, _ | _⟩⟩⟩⟩⟩⟩
  all_goals rfl

end Kind

namespace Event

/-- The strings that the line of an event shows as they are; an event without a line shows none. -/
def strings (e : Event) : List Bytes := e.args.apply (Prescribed.strings e.kind)

/-- What a line shows after the name has no newlines but those of its strings. -/
lemma count_newline_arguments (e : Event) :
    (e.args.apply (Prescribed.arguments e.kind)).count newline =
      e.strings.flatten.count newline := by
  rw [← Kind.flatten_render_layout, Layout.count_newline_render e.kind.oneLine_of_mem_texts,
    Kind.strings_layout]
  rfl

/-- **The newlines of a line** are the one at its end and those inside the strings that it shows as
they are, whatever the other arguments are. -/
theorem count_newline_line (e : Event) :
    e.line.flatten.count newline = e.strings.flatten.count newline + 1 := by
  rw [flatten_line, List.count_append, List.count_append, e.kind.oneLine_name.count_newline,
    count_newline_arguments, Nat.zero_add, List.count_singleton_self]

end Event

end WasmTrace
