import WasmTrace.Sink.Memory
import WasmTrace.Writer

/-!
# A sink over a writer

A `Latch` passes everything to a writer until a write fails.  Then it closes: it keeps the fault,
raises one warning, and drops whatever else it receives, so that what the writer has taken is
always a clean beginning of the trace.  The fault can be taken out once; the latch stays closed.
-/

namespace WasmTrace

universe u

/-- The text of a fault as a latch reports it. -/
def Fault.report (f : Fault) : String := "trace sink write failed: " ++ f.message

/-- A sink over a writer. -/
structure Latch (ω : Type u) where
  /-- The writer. -/
  writer : ω
  /-- Whether a write has failed. -/
  closed : Bool := false
  /-- The fault of the write that failed, until it is taken out. -/
  fault : Option Fault := none
  /-- The faults that a warning was raised for. -/
  warnings : List Fault := []

namespace Latch

variable {ω : Type u}

/-- The text of a warning. -/
def warningText : String := "trace sink write failed, dropping further output"

/-- A latch that is open. -/
def ofWriter (writer : ω) : Latch ω := { writer }

/-- Passes bytes to the writer, or drops them if the latch is closed. -/
def write [Writer ω] (s : Latch ω) (data : Bytes) : Latch ω :=
  if s.closed then s
  else
    match Writer.writeAll s.writer data with
    | (writer, none) => { s with writer }
    | (writer, some fault) =>
      { writer, closed := true, fault := some fault, warnings := s.warnings ++ [fault] }

/-- Takes out the fault, if it is still there. -/
def takeFault (s : Latch ω) : Latch ω × Option Fault := ({ s with fault := none }, s.fault)

/-- Flushes the writer, unless there is a fault to take out: then that is the result and the
writer is left alone.  A flush that fails does not close the latch. -/
def flush [Writer ω] (s : Latch ω) : Latch ω × Option Fault :=
  match s.takeFault with
  | (s, some fault) => (s, some fault)
  | (s, none) =>
    match Writer.flush s.writer with
    | (writer, reason) => ({ s with writer }, reason.map .reported)

/-- The bytes of a latch are those that its writer has taken. -/
instance instSink [Writer ω] : Sink (Latch ω) where
  write := write
  kept s := Writer.taken s.writer

end Latch

end WasmTrace
