import WasmTrace.Text

/-!
# Value types

A value type is one of eleven primitive types or the index of a declared signature.  In a binary
it is a signed code: negative codes are primitive types, all others are indices.

A type is shown in two ways.  Where a signature is expected its index is part of the text,
elsewhere all indices look alike.
-/

namespace WasmTrace

/-- The types that are not declared by a module. -/
inductive Primitive where
  | i32
  | i64
  | f32
  | f64
  | v128
  | funcref
  | anyref
  | nullref
  | exnref
  | func
  | void
  deriving DecidableEq, Repr

namespace Primitive

/-- All primitive types. -/
def all : List Primitive :=
  [.i32, .i64, .f32, .f64, .v128, .funcref, .anyref, .nullref, .exnref, .func, .void]

/-- The name of a primitive type. -/
def name : Primitive → String
  | .i32 => "i32"
  | .i64 => "i64"
  | .f32 => "f32"
  | .f64 => "f64"
  | .v128 => "v128"
  | .funcref => "funcref"
  | .anyref => "anyref"
  | .nullref => "nullref"
  | .exnref => "exnref"
  | .func => "func"
  | .void => "void"

/-- The code of a primitive type in a binary. -/
def code : Primitive → Int32
  | .i32 => -0x01
  | .i64 => -0x02
  | .f32 => -0x03
  | .f64 => -0x04
  | .v128 => -0x05
  | .funcref => -0x10
  | .anyref => -0x11
  | .nullref => -0x12
  | .exnref => -0x18
  | .func => -0x20
  | .void => -0x40

/-- The primitive type with a code. -/
def ofCode? (c : Int32) : Option Primitive := all.find? (·.code == c)

/-- The primitive type with a name. -/
def ofName? (s : String) : Option Primitive := all.find? (·.name == s)

end Primitive

/-- A value type. -/
inductive ValType where
  /-- A primitive type. -/
  | primitive (p : Primitive)
  /-- A declared signature, by its index. -/
  | index (n : UInt32)
  deriving DecidableEq, Repr

namespace ValType

/-- The greatest index that has a code. -/
def maxCodedIndex : UInt32 := 0x7fffffff

/-- The type with a code: an index from zero on, a primitive type or nothing below. -/
def ofCode? (c : Int32) : Option ValType :=
  if 0 ≤ c then some (.index c.toUInt32) else (Primitive.ofCode? c).map .primitive

/-- The code of a type.  An index too great for a non-negative code has none. -/
def code? : ValType → Option Int32
  | .primitive p => some p.code
  | .index n => if n ≤ maxCodedIndex then some n.toInt32 else none

/-- The name of a type; all indices have the same one. -/
def name : ValType → String
  | .primitive p => p.name
  | .index _ => "<type index>"

/-- The text of a type as part of a signature, where an index is shown. -/
def text : ValType → String
  | .primitive p => p.name
  | .index n => "funcidx[" ++ Numeral.decimal n.toNat ++ "]"

/-- Whether a type is an index. -/
def isIndex : ValType → Bool
  | .primitive _ => false
  | .index _ => true

/-- The text of a list of types, as part of a signature. -/
def listText (ts : List ValType) : String := bracketed (ts.map text)

end ValType

end WasmTrace
