import WasmTrace.Text.Lossy

/-!
# Sinks

A sink receives the bytes of a trace.  Writing to it cannot fail; a sink whose backing can fail
keeps the failure to itself.  The plainest sink keeps everything in memory.

The main statement is `Memory.buffer_writeAll`: the buffer grows by exactly the parts written.
-/

namespace WasmTrace

universe u

/-- A receiver of bytes. -/
class Sink (σ : Type u) where
  /-- Receives bytes. -/
  write : σ → Bytes → σ
  /-- All bytes that the sink has kept or passed to its backing, in order.  A sink that hands its
  bytes on as texts keeps none. -/
  kept : σ → Bytes

/-- A part of a formatted text.  Each part is produced by a value, and a value may fail to show
itself. -/
inductive Piece where
  /-- A value that shows itself. -/
  | text (s : String)
  /-- A value that shows something and then fails. -/
  | failing (s : String)
  deriving DecidableEq, Repr

/-- What reaches a sink of a formatted text: nothing after the first failure. -/
def Piece.written : List Piece → List Bytes
  | [] => []
  | .text s :: rest => .ofText s :: written rest
  | .failing s :: _ => [.ofText s]

namespace Sink

variable {σ : Type u} [Sink σ]

/-- Receives several parts in order. -/
def writeAll (s : σ) (parts : List Bytes) : σ := parts.foldl write s

/-- Receives a formatted text, part by part. -/
def writeFormatted (s : σ) (pieces : List Piece) : σ := writeAll s (Piece.written pieces)

/-- Receiving no parts changes nothing. -/
@[simp]
theorem writeAll_nil (s : σ) : writeAll s [] = s := rfl

/-- The first part is received first. -/
@[simp]
theorem writeAll_cons (s : σ) (part : Bytes) (parts : List Bytes) :
    writeAll s (part :: parts) = writeAll (write s part) parts := rfl

/-- Parts may be received in two goes. -/
theorem writeAll_append (s : σ) (parts more : List Bytes) :
    writeAll s (parts ++ more) = writeAll (writeAll s parts) more :=
  List.foldl_append ..

end Sink

/-! ## A sink in memory -/

/-- A sink that keeps everything. -/
structure Memory where
  /-- All bytes received. -/
  buffer : Bytes := []
  deriving DecidableEq, Repr

namespace Memory

/-- Receiving bytes appends them. -/
instance instSink : Sink Memory where
  write m data := { m with buffer := m.buffer ++ data }
  kept m := m.buffer

/-- The same sink with nothing in it. -/
def clear (m : Memory) : Memory := { m with buffer := [] }

/-- The text of the buffer. -/
def text (m : Memory) : String := Lossy.text m.buffer

/-- One part is appended. -/
@[simp]
theorem buffer_write (m : Memory) (data : Bytes) :
    (Sink.write m data).buffer = m.buffer ++ data := rfl

/-- Several parts are appended in order. -/
@[simp]
theorem buffer_writeAll (m : Memory) (parts : List Bytes) :
    (Sink.writeAll m parts).buffer = m.buffer ++ parts.flatten := by
  induction parts generalizing m with
  | nil => simp
  | cons part parts ih => simp [ih]

end Memory

end WasmTrace
