import WasmTrace.Text

/-!
# Indentation

Lines are indented by the number of open levels.  Levels are counted on their own, so that a
level that is closed without having been opened is noticed for every width, zero included.

The spaces of a line are written in runs of a fixed length.  The main statements are
`flatten_spaceRuns` and `length_le_of_mem_spaceRuns`: the runs make up exactly the spaces asked
for, and none is longer than the fixed length.
-/

namespace WasmTrace

/-- The open levels, and the spaces that each of them adds. -/
structure Indent where
  /-- The number of open levels. -/
  levels : Nat
  /-- The spaces that each level adds. -/
  unit : Nat
  deriving DecidableEq, Repr

/-- The failure to close a level when none is open. -/
structure Unmatched where
  /-- The spaces that a level would have added. -/
  unit : Nat
  deriving DecidableEq, Repr

/-- The text of an unmatched close. -/
def Unmatched.message (u : Unmatched) : String :=
  "dedent below zero (unit " ++ Numeral.decimal u.unit ++ ")"

namespace Indent

/-- The number of spaces that a level adds unless another number is asked for. -/
def defaultUnit : Nat := 2

/-- No open levels. -/
def fresh (unit : Nat) : Indent := { levels := 0, unit }

/-- The spaces in front of a line. -/
def depth (i : Indent) : Nat := i.levels * i.unit

/-- Opens a level. -/
def indent (i : Indent) : Indent := { i with levels := i.levels + 1 }

/-- Closes a level, if one is open. -/
def dedent (i : Indent) : Except Unmatched Indent :=
  match i.levels with
  | 0 => .error { unit := i.unit }
  | levels + 1 => .ok { i with levels }

/-- The length of a full run of spaces. -/
def runLength : Nat := 64

/-- A full run of spaces. -/
def fullRun : Bytes := List.replicate runLength Bytes.space

/-- The runs that make up a number of spaces: full runs as long as more than one of them is
left, then what remains. -/
def spaceRuns (remaining : Nat) : List Bytes :=
  if runLength < remaining then fullRun :: spaceRuns (remaining - runLength)
  else if 0 < remaining then [fullRun.take remaining]
  else []
termination_by remaining
decreasing_by
  have : 0 < runLength := by decide
  omega

/-- The indentation of a line, run by run. -/
def runs (i : Indent) : List Bytes := spaceRuns i.depth

/-- The runs make up exactly the spaces asked for. -/
theorem flatten_spaceRuns (n : Nat) :
    (spaceRuns n).flatten = List.replicate n Bytes.space := by
  induction n using spaceRuns.induct with
  | case1 n h ih =>
    rw [spaceRuns, if_pos h, List.flatten_cons, ih, fullRun,
      List.replicate_append_replicate]
    congr 1
    omega
  | case2 n h hpos =>
    rw [spaceRuns, if_neg h, if_pos hpos,
      List.flatten_singleton, fullRun, List.take_replicate]
    congr 1
    omega
  | case3 n h hpos =>
    obtain rfl : n = 0 := by omega
    rw [spaceRuns]
    rfl

/-- No run is longer than a full one. -/
theorem length_le_of_mem_spaceRuns {n : Nat} {run : Bytes} (h : run ∈ spaceRuns n) :
    run.length ≤ runLength := by
  induction n using spaceRuns.induct with
  | case1 n hn ih =>
    rw [spaceRuns, if_pos hn, List.mem_cons] at h
    rcases h with rfl | h
    · simp [fullRun]
    · exact ih h
  | case2 n hn hpos =>
    rw [spaceRuns, if_neg hn, if_pos hpos,
      List.mem_singleton] at h
    subst h
    simp only [fullRun, List.length_take, List.length_replicate]
    omega
  | case3 n hn hpos =>
    rw [spaceRuns, if_neg hn,
      if_neg hpos] at h
    simp at h

end Indent

end WasmTrace
