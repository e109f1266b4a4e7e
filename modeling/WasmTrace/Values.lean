import WasmTrace.Text

/-!
# Limits, problems and positions

A table or a memory has an initial size and possibly a greatest one; a memory may be shared
between threads.

A reader reports the problems that it finds, with the offset in its input if it knows one, and
publishes its position as it goes.
-/

namespace WasmTrace

/-! ## Limits of tables and memories -/

/-- The size bounds of a table or a memory. -/
structure Limits where
  /-- The initial size. -/
  initial : UInt64 := 0
  /-- The greatest size, if there is one. -/
  max? : Option UInt64 := none
  /-- Whether the memory is shared between threads. -/
  shared : Bool := false
  deriving DecidableEq, Repr

namespace Limits

/-- The limits of an unshared memory without a greatest size. -/
def ofInitial (initial : UInt64) : Limits := { initial }

/-- The same limits with a greatest size. -/
def withMax (l : Limits) (max : UInt64) : Limits := { l with max? := some max }

/-- The same limits of a shared memory. -/
def asShared (l : Limits) : Limits := { l with shared := true }

/-- Whether there is a greatest size. -/
def hasMax (l : Limits) : Bool := l.max?.isSome

/-- The sizes; sharing is not shown. -/
def text (l : Limits) : String :=
  "initial: " ++ Numeral.decimal l.initial.toNat ++
    match l.max? with
    | none => ""
    | some m => ", max: " ++ Numeral.decimal m.toNat

end Limits

/-! ## What a reader reports -/

/-- A problem in the input of a reader. -/
structure ParseError where
  /-- Where the problem was found, if known. -/
  offset : Option UInt64
  /-- What the problem is. -/
  message : String
  deriving DecidableEq, Repr

namespace ParseError

/-- The problem with a message, found at an offset. -/
def located (offset : UInt64) (message : String) : ParseError := { offset := some offset, message }

/-- The least number of hexadecimal digits of an offset. -/
def offsetWidth : Nat := 8

/-- The text of an offset: hexadecimal, with at least eight digits and never cut short. -/
def offsetText (offset : UInt64) : String := "0x" ++ Numeral.hexPadded offsetWidth offset.toNat

/-- The text of a problem; the offset, if known, stands in front. -/
def text (e : ParseError) : String :=
  match e.offset with
  | none => e.message
  | some offset => offsetText offset ++ ": " ++ e.message

end ParseError

/-- The position of a reader in its input. -/
structure Position where
  /-- The offset of the next byte. -/
  offset : UInt64
  /-- The size of the whole input. -/
  size : UInt64
  deriving DecidableEq, Repr

end WasmTrace
