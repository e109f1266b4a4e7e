import WasmTrace.Decimal.Binary64
import WasmTrace.Event.Argument

/-!
# The text of an event

A line shows the name of an event and some of its arguments.  What stands after the name is a
layout: fixed texts and fields, each field an argument in one of the styles of its type.
Layouts are data, so that what a line shows can be read off the layout as well as off the bytes
it produces.
-/

namespace WasmTrace

/-- A way of showing an argument of the given type. -/
inductive Style : ArgType → Type where
  /-- In decimal. -/
  | decimal : Style .u32
  /-- In decimal, as a number in two's complement. -/
  | signed : Style .u32
  /-- In hexadecimal, without a mark. -/
  | hex : Style .u32
  /-- As a number in floating point, with six significant digits. -/
  | float : Style .u32
  /-- In decimal. -/
  | wideDecimal : Style .u64
  /-- In hexadecimal, without a mark. -/
  | wideHex : Style .u64
  /-- As a number in floating point, with six significant digits. -/
  | wideFloat : Style .u64
  /-- As a word. -/
  | flag : Style .flag
  /-- As it is. -/
  | raw : Style .bytes
  /-- Only the number of bytes. -/
  | size : Style .bytes
  /-- By name; all indices look alike. -/
  | typeName : Style .valType
  /-- As a signature, with its index. -/
  | signature : Style .valType
  /-- The list in brackets. -/
  | typeList : Style .valTypes
  /-- The list in brackets. -/
  | indexList : Style .indices
  /-- Only the number of indices. -/
  | indexCount : Style .indices
  /-- The sizes, without sharing. -/
  | limits : Style .limits
  /-- The mnemonic in quotes and the code. -/
  | opcode : Style .opcode
  /-- The four lanes, each with its mark. -/
  | lanes : Style .vec128
  /-- The four lanes with one mark in front. -/
  | shuffle : Style .vec128
  /-- By name. -/
  | itemKind : Style .itemKind
  /-- By name. -/
  | relocKind : Style .relocKind
  /-- By name. -/
  | symbolKind : Style .symbolKind
  /-- By code. -/
  | comdatKind : Style .comdatKind
  deriving DecidableEq

/-- The word for a truth value. -/
def flagText (b : Bool) : String := if b then "true" else "false"

/-- The bytes of an argument shown in a style. -/
def Style.render : {t : ArgType} → Style t → t.Value → Bytes
  | _, .decimal, n => .ofText (Numeral.decimal n.toNat)
  | _, .signed, n => .ofText (Numeral.signed n.toInt32.toInt)
  | _, .hex, n => .ofText (Numeral.hex n.toNat)
  | _, .float, bits => .ofText (Binary32.text bits)
  | _, .wideDecimal, n => .ofText (Numeral.decimal n.toNat)
  | _, .wideHex, n => .ofText (Numeral.hex n.toNat)
  | _, .wideFloat, bits => .ofText (Binary64.text bits)
  | _, .flag, b => .ofText (flagText b)
  | _, .raw, bytes => bytes
  | _, .size, bytes => .ofText (Numeral.decimal bytes.length)
  | _, .typeName, ty => .ofText ty.name
  | _, .signature, ty => .ofText ty.text
  | _, .typeList, ts => .ofText (ValType.listText ts)
  | _, .indexList, ns => .ofText (indicesText ns)
  | _, .indexCount, ns => .ofText (Numeral.decimal ns.length)
  | _, .limits, l => .ofText l.text
  | _, .opcode, o => .ofText o.text
  | _, .lanes, v => .ofText v.lanesText
  | _, .shuffle, v => .ofText v.shuffleText
  | _, .itemKind, k => .ofText k.name
  | _, .relocKind, k => .ofText k.name
  | _, .symbolKind, k => .ofText k.name
  | _, .comdatKind, k => .ofText (Numeral.decimal k.code.toNat)

/-- A part of a layout. -/
inductive Segment (sig : Signature) where
  /-- A fixed text. -/
  | text (s : String)
  /-- An argument in a style. -/
  | field {t : ArgType} (x : Slot sig t) (style : Style t)

/-- What a line shows after the name of its event. -/
abbrev Layout (sig : Signature) := List (Segment sig)

/-- The bytes of a part of a layout. -/
def Segment.render {sig : Signature} (args : Args sig) : Segment sig → Bytes
  | .text s => .ofText s
  | .field x style => style.render (args.get x)

/-- The bytes of a layout, part by part. -/
def Layout.render {sig : Signature} (layout : Layout sig) (args : Args sig) : List Bytes :=
  layout.map (·.render args)

end WasmTrace
