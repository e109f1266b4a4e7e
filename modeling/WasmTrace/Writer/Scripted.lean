import WasmTrace.Writer

/-!
# A writer that follows a script

For experiments with sinks: the script says how the next calls go, and a budget bounds all that
is taken.  When the script is at its end, each call takes as much as the budget allows.
-/

namespace WasmTrace

/-- How a call goes. -/
inductive Cue where
  /-- At most so many bytes are taken. -/
  | atMost (n : Nat)
  /-- The call is interrupted. -/
  | interrupt
  /-- The call fails. -/
  | fail (reason : String)
  deriving DecidableEq, Repr

/-- A writer that follows a script. -/
structure Scripted where
  /-- How many bytes may still be taken; no bound if none is given. -/
  budget : Option Nat := none
  /-- How the next calls go. -/
  script : List Cue := []
  /-- Why a flush fails, if it does. -/
  flushReason : Option String := none
  /-- All bytes taken so far. -/
  output : Bytes := []
  /-- The number of calls so far. -/
  calls : Nat := 0
  deriving DecidableEq, Repr

namespace Scripted

/-- Why a call fails when the budget is used up. -/
def exhausted : String := "closed"

/-- Takes at most `n` bytes, within the budget. -/
def take (w : Scripted) (data : Bytes) (n : Nat) : Scripted × WriteAnswer :=
  match w.budget with
  | none => ({ w with output := w.output ++ data.take n }, .accepted n)
  | some 0 => (w, .failed exhausted)
  | some (left + 1) =>
    let n := min n (left + 1)
    ({ w with output := w.output ++ data.take n, budget := some (left + 1 - n) }, .accepted n)

/-- One call: the script is asked first, then the budget.  A call that the script fails leaves
the budget alone. -/
def write (w : Scripted) (data : Bytes) : Scripted × WriteAnswer :=
  let w := { w with calls := w.calls + 1 }
  match w.script with
  | [] => w.take data data.length
  | .atMost n :: script => { w with script }.take data (min data.length n)
  | .interrupt :: script => ({ w with script }, .interrupted)
  | .fail reason :: script => ({ w with script }, .failed reason)

/-- What is taken is appended to the output. -/
theorem output_take_accepted {w w' : Scripted} {data : Bytes} {m n : Nat}
    (h : w.take data m = (w', .accepted n)) : w'.output = w.output ++ data.take n := by
  unfold take at h
  split at h <;> simp only [Prod.mk.injEq, WriteAnswer.accepted.injEq, reduceCtorEq, and_false] at h
  · obtain ⟨rfl, rfl⟩ := h
    rfl
  · obtain ⟨rfl, rfl⟩ := h
    rfl

/-- Taking is never interrupted. -/
theorem take_ne_interrupted {w w' : Scripted} {data : Bytes} {m : Nat} :
    w.take data m ≠ (w', .interrupted) := by
  unfold take
  split <;> simp

/-- A failure leaves the output as it is. -/
theorem output_take_failed {w w' : Scripted} {data : Bytes} {m : Nat} {reason : String}
    (h : w.take data m = (w', .failed reason)) : w'.output = w.output := by
  unfold take at h
  split at h <;> simp only [Prod.mk.injEq, reduceCtorEq, and_false] at h
  rw [h.1]

/-- A call appends what it takes to the output. -/
theorem output_write_accepted {w w' : Scripted} {data : Bytes} {n : Nat}
    (h : w.write data = (w', .accepted n)) : w'.output = w.output ++ data.take n := by
  unfold write at h
  dsimp only at h
  split at h
  · have := output_take_accepted h
    exact this
  · have := output_take_accepted h
    exact this
  · simp at h
  · simp at h

/-- A call that fails leaves the output as it is. -/
theorem output_write_failed {w w' : Scripted} {data : Bytes} {reason : String}
    (h : w.write data = (w', .failed reason)) : w'.output = w.output := by
  unfold write at h
  dsimp only at h
  split at h
  · have := output_take_failed h
    exact this
  · have := output_take_failed h
    exact this
  · simp at h
  · rw [← (Prod.mk.inj h).1]

/-- An interrupted call uses up a part of the script and takes nothing. -/
theorem write_interrupted {w w' : Scripted} {data : Bytes}
    (h : w.write data = (w', .interrupted)) :
    w'.output = w.output ∧ w'.script.length < w.script.length := by
  unfold write at h
  dsimp only at h
  split at h
  · exact absurd h take_ne_interrupted
  · exact absurd h take_ne_interrupted
  · next hs =>
    obtain ⟨rfl, -⟩ := Prod.mk.inj h
    simp [hs]
  · simp at h

/-- A scripted writer keeps the laws of writers; its patience is the rest of its script. -/
instance instWriter : Writer Scripted where
  write := write
  flush w := (w, w.flushReason)
  taken := output
  patience w _ := w.script.length
  taken_accepted := output_write_accepted
  taken_interrupted h := (write_interrupted h).1
  taken_failed := output_write_failed
  patience_lt h := (write_interrupted h).2

end Scripted

end WasmTrace
