import WasmTrace.Text

/-!
# Writers

A writer stands for something outside: a file, a pipe, a connection.  One call may take all of
the bytes it is given, or some, or none; it may be interrupted; it may fail.  `Writer.writeAll`
repeats the call until everything was taken or the writer gave up.

A writer is interrupted only finitely often in a row.  Each writer gives a bound for the bytes it
is offered, its patience, that every interruption lowers; this is why writing everything ends.
-/

namespace WasmTrace

universe u

/-- The answer of one call to a writer. -/
inductive WriteAnswer where
  /-- So many bytes were taken. -/
  | accepted (n : Nat)
  /-- Nothing was taken; the call is to be repeated. -/
  | interrupted
  /-- Nothing was taken, for the reason given. -/
  | failed (reason : String)
  deriving DecidableEq, Repr

/-- Why bytes could not be written. -/
inductive Fault where
  /-- The writer took none of the bytes it was given, without a reason. -/
  | wroteNothing
  /-- The writer gave a reason. -/
  | reported (reason : String)
  deriving DecidableEq, Repr

/-- The text of a fault. -/
def Fault.message : Fault → String
  | .wroteNothing => "failed to write whole buffer"
  | .reported reason => reason

/-- Something that takes bytes and may fail. -/
class Writer (ω : Type u) where
  /-- One call with bytes to be taken. -/
  write : ω → Bytes → ω × WriteAnswer
  /-- Asks the writer to pass on what it has taken; gives a reason if it cannot. -/
  flush : ω → ω × Option String
  /-- All bytes taken so far. -/
  taken : ω → Bytes
  /-- A bound on the interruptions to come in a row while the same bytes are offered. -/
  patience : ω → Bytes → Nat
  /-- A writer takes what it says it takes: the first bytes it is given. -/
  taken_accepted {w w' : ω} {data : Bytes} {n : Nat} :
    write w data = (w', .accepted n) → taken w' = taken w ++ data.take n
  /-- An interrupted call takes nothing. -/
  taken_interrupted {w w' : ω} {data : Bytes} :
    write w data = (w', .interrupted) → taken w' = taken w
  /-- A call that fails takes nothing. -/
  taken_failed {w w' : ω} {data : Bytes} {reason : String} :
    write w data = (w', .failed reason) → taken w' = taken w
  /-- An interruption lowers the patience. -/
  patience_lt {w w' : ω} {data : Bytes} :
    write w data = (w', .interrupted) → patience w' data < patience w data

namespace Writer

variable {ω : Type u} [Writer ω]

/-- Writes all of the bytes: calls the writer as long as bytes are left, goes on with what it
left, and repeats interrupted calls.  A call that takes nothing of something is a fault. -/
def writeAll (w : ω) (data : Bytes) : ω × Option Fault :=
  if _hdata : data = [] then (w, none)
  else
    match _hcall : write w data with
    | (w', .accepted n) =>
      if _hn : n = 0 then (w', some .wroteNothing) else writeAll w' (data.drop n)
    | (w', .interrupted) => writeAll w' data
    | (w', .failed reason) => (w', some (.reported reason))
termination_by (data.length, patience w data)
decreasing_by
  · apply Prod.Lex.left
    have : 0 < data.length := List.length_pos_iff.mpr _hdata
    simp only [List.length_drop]
    omega
  · exact Prod.Lex.right _ (patience_lt _hcall)

end Writer

end WasmTrace
