import WasmTrace.Sink.Memory
import WasmTrace.Text.Lossy

/-!
# A sink of lines

Bytes arrive in arbitrary parts.  Each line is handed on as soon as its newline arrives; what has
no newline yet is pending, and is handed on by a flush.  Dropping the sink flushes it.

The main statement is `Bytes.cut_join`: cutting bytes at their newlines loses none of them.
-/

namespace WasmTrace

namespace Bytes

/-- Bytes cut at their newlines: the lines, without their newlines, and what follows the last
newline. -/
def cut : Bytes → List Bytes × Bytes
  | [] => ([], [])
  | b :: bs =>
    match cut bs with
    | (lines, rest) =>
      if b = newline then ([] :: lines, rest)
      else
        match lines with
        | [] => ([], b :: rest)
        | line :: lines => ((b :: line) :: lines, rest)

/-- The lines with their newlines, and then the rest, are the bytes that were cut. -/
theorem cut_join (bs : Bytes) :
    ((cut bs).1.map (· ++ [newline])).flatten ++ (cut bs).2 = bs := by
  induction bs with
  | nil => rfl
  | cons b bs ih =>
    unfold cut
    rcases hcut : cut bs with ⟨lines, rest⟩
    rw [hcut] at ih
    dsimp only at ih ⊢
    split
    · next h => simpa [h] using ih
    · cases lines with
      | nil => simpa using ih
      | cons line lines => simpa using ih

end Bytes

/-- Bytes that a sink of lines handed on. -/
structure Handed where
  /-- The bytes, without a newline. -/
  content : Bytes
  /-- Whether a newline ended them; a flush hands on what has none. -/
  terminated : Bool
  deriving DecidableEq, Repr

namespace Handed

/-- The text of the bytes. -/
def message (h : Handed) : String := Lossy.text h.content

/-- The bytes as they were received. -/
def received (h : Handed) : Bytes :=
  if h.terminated then h.content ++ [Bytes.newline] else h.content

end Handed

/-- A sink that hands on lines. -/
structure LineSink where
  /-- What was received after the last newline. -/
  pending : Bytes := []
  /-- All that was handed on, in order. -/
  handed : List Handed := []
  deriving DecidableEq, Repr

namespace LineSink

/-- Receives bytes and hands on the lines that they complete. -/
def write (s : LineSink) (data : Bytes) : LineSink :=
  let (lines, rest) := Bytes.cut (s.pending ++ data)
  { pending := rest, handed := s.handed ++ lines.map fun line => ⟨line, true⟩ }

/-- Hands on what is pending, if anything is. -/
def flush (s : LineSink) : LineSink :=
  if s.pending.isEmpty then s
  else { pending := [], handed := s.handed ++ [⟨s.pending, false⟩] }

/-- A sink of lines keeps no bytes. -/
instance instSink : Sink LineSink where
  write := write
  kept _ := []

end LineSink

end WasmTrace
