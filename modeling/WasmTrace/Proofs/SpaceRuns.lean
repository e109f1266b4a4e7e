import Mathlib.Algebra.Order.Floor.Div
import Mathlib.Logic.Function.Iterate
import Mathlib.Tactic.Lemma
import WasmTrace.Indent
import WasmTrace.Sink.Memory

/-!
# Writing an indentation

The spaces in front of a line are written by a loop over machine words.  While more than a full run
of spaces is left, a full run is written and its length is taken off; at the end, what is left is
written as a slice of the full run, unless nothing is left.  The loop would stop for good at a
difference below zero and at a slice beyond the end of the run.

The main statement is `Indent.spaces_written_exactly`: the loop comes to its end, and what it has
written are the runs of the indentation, the fewest that make up the spaces.
-/

namespace WasmTrace

universe u

namespace Indent

/-! ## The runs -/

/-- While more than a full run is asked for, the first run is a full one. -/
lemma spaceRuns_of_lt {n : ℕ} (h : runLength < n) :
    spaceRuns n = fullRun :: spaceRuns (n - runLength) := by
  rw [spaceRuns, if_pos h]

/-- What is not more than a full run is a slice of it. -/
lemma spaceRuns_of_le {n : ℕ} (hpos : 0 < n) (h : n ≤ runLength) :
    spaceRuns n = [fullRun.take n] := by
  rw [spaceRuns, if_neg (not_lt.mpr h), if_pos hpos]

lemma spaceRuns_zero : spaceRuns 0 = [] := by
  rw [spaceRuns, if_neg (Nat.not_lt_zero _), if_neg (lt_irrefl 0)]

lemma length_fullRun : fullRun.length = runLength := List.length_replicate

/-- There are runs if there are spaces. -/
lemma spaceRuns_ne_nil {n : ℕ} (hpos : 0 < n) : spaceRuns n ≠ [] := by
  intro hnil
  have hflatten := flatten_spaceRuns n
  rw [hnil, List.flatten_nil] at hflatten
  exact hpos.ne ((List.replicate_eq_nil_iff _).mp hflatten.symm).symm

/-- Runs that make up so many spaces, the fewest that do. -/
structure MakeUp (n : ℕ) (runs : List Bytes) : Prop where
  /-- Together they are the spaces. -/
  flatten : runs.flatten = List.replicate n Bytes.space
  /-- There are as many runs as are needed. -/
  length : runs.length = n ⌈/⌉ runLength
  /-- No run is empty. -/
  ne_nil : ∀ run ∈ runs, run ≠ []
  /-- All but the last one are full. -/
  full : ∀ run ∈ runs.dropLast, run = fullRun
  /-- None is longer than a full one. -/
  bounded : ∀ run ∈ runs, run.length ≤ runLength

/-- One run more makes up the spaces of a full run more. -/
lemma length_spaceRuns (n : ℕ) : (spaceRuns n).length = n ⌈/⌉ runLength := by
  induction n using spaceRuns.induct with
  | case1 n h ih =>
    rw [spaceRuns_of_lt h, List.length_cons, ih, Nat.ceilDiv_eq_add_pred_div,
      Nat.ceilDiv_eq_add_pred_div]
    rw [runLength] at h ⊢
    omega
  | case2 n h hpos =>
    rw [spaceRuns_of_le hpos (not_lt.mp h), List.length_singleton, Nat.ceilDiv_eq_add_pred_div]
    rw [runLength] at h ⊢
    omega
  | case3 n h hpos =>
    obtain rfl : n = 0 := Nat.eq_zero_of_not_pos hpos
    rw [spaceRuns_zero, List.length_nil, zero_ceilDiv]

/-- A run is written only for spaces that are left. -/
lemma ne_nil_of_mem_spaceRuns {n : ℕ} {run : Bytes} (h : run ∈ spaceRuns n) : run ≠ [] := by
  induction n using spaceRuns.induct with
  | case1 n hn ih =>
    rw [spaceRuns_of_lt hn, List.mem_cons] at h
    rcases h with rfl | h
    · decide
    · exact ih h
  | case2 n hn hpos =>
    rw [spaceRuns_of_le hpos (not_lt.mp hn), List.mem_singleton] at h
    rw [h, ne_eq, List.take_eq_nil_iff, not_or]
    exact ⟨hpos.ne', by decide⟩
  | case3 n hn hpos =>
    rw [Nat.eq_zero_of_not_pos hpos, spaceRuns_zero] at h
    exact absurd h List.not_mem_nil

/-- Only the last run is shorter than the others. -/
lemma eq_fullRun_of_mem_dropLast {n : ℕ} {run : Bytes} (h : run ∈ (spaceRuns n).dropLast) :
    run = fullRun := by
  induction n using spaceRuns.induct with
  | case1 n hn ih =>
    rw [spaceRuns_of_lt hn, List.dropLast_cons_of_ne_nil (spaceRuns_ne_nil (Nat.sub_pos_of_lt hn)),
      List.mem_cons] at h
    exact h.elim id ih
  | case2 n hn hpos =>
    rw [spaceRuns_of_le hpos (not_lt.mp hn)] at h
    exact absurd h List.not_mem_nil
  | case3 n hn hpos =>
    rw [Nat.eq_zero_of_not_pos hpos, spaceRuns_zero] at h
    exact absurd h List.not_mem_nil

lemma makeUp_spaceRuns (n : ℕ) : MakeUp n (spaceRuns n) where
  flatten := flatten_spaceRuns n
  length := length_spaceRuns n
  ne_nil _ := ne_nil_of_mem_spaceRuns
  full _ := eq_fullRun_of_mem_dropLast
  bounded _ := length_le_of_mem_spaceRuns

/-! ## The loop -/

/-- The length of a full run, as a word. -/
def runWord : USize := .ofNat runLength

lemma toNat_runWord : runWord.toNat = runLength := USize.toNat_ofNat_of_lt_32 (by decide)

/-- The difference of two words, unless it is below zero. -/
def difference? (m n : USize) : Option USize := if n ≤ m then some (m - n) else none

/-- The first `n` bytes of a run, unless it is shorter. -/
def slice? (run : Bytes) (n : USize) : Option Bytes :=
  if n.toNat ≤ run.length then some (run.take n.toNat) else none

/-- What the loop has come to. -/
inductive Progress (σ : Type u) where
  /-- So many spaces are left to write. -/
  | pending (left : USize) (sink : σ)
  /-- All spaces are written. -/
  | finished (sink : σ)
  /-- The loop cannot go on. -/
  | stopped

namespace Progress

variable {σ : Type u} [Sink σ]

/-- One pass of the loop. -/
def pass : Progress σ → Progress σ
  | .pending left sink =>
    if runWord < left then
      match difference? left runWord with
      | some rest => .pending rest (Sink.write sink fullRun)
      | none => .stopped
    else if 0 < left then
      match slice? fullRun left with
      | some run => .finished (Sink.write sink run)
      | none => .stopped
    else .finished sink
  | .finished sink => .finished sink
  | .stopped => .stopped

/-- The loop in front of its first pass. -/
def start (levels unit : USize) (sink : σ) : Progress σ := .pending (levels * unit) sink

variable {left : USize} {sink : σ}

/-- A pass with more than a full run left. -/
lemma pass_of_lt (h : runLength < left.toNat) :
    (pending left sink).pass = .pending (left - runWord) (Sink.write sink fullRun) := by
  have hword : runWord < left := by rwa [USize.lt_iff_toNat_lt, toNat_runWord]
  have hdifference : difference? left runWord = some (left - runWord) :=
    if_pos (USize.le_of_lt hword)
  rw [pass, if_pos hword, hdifference]

/-- The length of a full run can be taken off then. -/
lemma toNat_sub_runWord (h : runLength < left.toNat) :
    (left - runWord).toNat = left.toNat - runLength := by
  have hle : runWord ≤ left := by
    rw [USize.le_iff_toNat_le, toNat_runWord]
    exact h.le
  rw [USize.toNat_sub_of_le _ _ hle, toNat_runWord]

/-- The last pass: there is a slice of the full run for what is left. -/
lemma pass_of_le (h : left.toNat ≤ runLength) :
    (pending left sink).pass = .finished (Sink.writeAll sink (spaceRuns left.toNat)) := by
  have hword : ¬runWord < left := by
    rw [USize.lt_iff_toNat_lt, toNat_runWord]
    exact not_lt.mpr h
  have hzero : (0 : USize) < left ↔ 0 < left.toNat := by
    rw [USize.lt_iff_toNat_lt, USize.toNat_zero]
  rw [pass, if_neg hword]
  rcases Nat.eq_zero_or_pos left.toNat with hnone | hpos
  · rw [if_neg (hzero.not.mpr hnone.not_gt), hnone, spaceRuns_zero, Sink.writeAll_nil]
  · have hslice : slice? fullRun left = some (fullRun.take left.toNat) :=
      if_pos (h.trans length_fullRun.ge)
    rw [if_pos (hzero.mpr hpos), hslice, spaceRuns_of_le hpos h, Sink.writeAll_cons,
      Sink.writeAll_nil]

/-- The loop has not stopped: what it has written are the first ones of the runs, and what is left
makes up the others. -/
def OnTrack (runs : List Bytes) (sink : σ) : Progress σ → Prop
  | .pending left now =>
    ∃ written, runs = written ++ spaceRuns left.toNat ∧ now = Sink.writeAll sink written
  | .finished now => now = Sink.writeAll sink runs
  | .stopped => False

/-- A pass keeps the loop on its track. -/
lemma OnTrack.pass {runs : List Bytes} {p : Progress σ} (h : p.OnTrack runs sink) :
    p.pass.OnTrack runs sink := by
  cases p with
  | pending left now =>
    obtain ⟨written, rfl, rfl⟩ := h
    rcases Nat.lt_or_ge runLength left.toNat with hmore | hlast
    · rw [pass_of_lt hmore]
      refine ⟨written ++ [fullRun], ?_, ?_⟩
      · rw [toNat_sub_runWord hmore, spaceRuns_of_lt hmore, List.append_assoc,
          List.singleton_append]
      · rw [Sink.writeAll_append, Sink.writeAll_cons, Sink.writeAll_nil]
    · rw [pass_of_le hlast]
      exact (Sink.writeAll_append ..).symm
  | finished now => exact h
  | stopped => exact h

/-- It stays there however many passes are made. -/
lemma onTrack_iterate (left : USize) (sink : σ) (k : ℕ) :
    (Progress.pass^[k] (.pending left sink)).OnTrack (spaceRuns left.toNat) sink := by
  induction k with
  | zero => exact ⟨[], rfl, rfl⟩
  | succ k ih =>
    rw [Function.iterate_succ_apply']
    exact ih.pass

/-- **The loop comes to its end**, in one pass for each run, or in one pass if there are none. -/
theorem iterate_pass (left : USize) (sink : σ) :
    Progress.pass^[max 1 (spaceRuns left.toNat).length] (.pending left sink) =
      .finished (Sink.writeAll sink (spaceRuns left.toNat)) := by
  -- along the runs: what is left after the first one is a word again
  generalize hn : left.toNat = n
  induction n using spaceRuns.induct generalizing left sink with
  | case1 n h ih =>
    subst hn
    have hrest := spaceRuns_ne_nil (Nat.sub_pos_of_lt h)
    have hpasses : max 1 (spaceRuns left.toNat).length =
        max 1 (spaceRuns (left.toNat - runLength)).length + 1 := by
      have hpos := List.length_pos_iff.mpr hrest
      rw [spaceRuns_of_lt h, List.length_cons]
      omega
    rw [hpasses, Function.iterate_succ_apply, pass_of_lt h,
      ih (left - runWord) (Sink.write sink fullRun) (toNat_sub_runWord h), spaceRuns_of_lt h,
      Sink.writeAll_cons]
  | case2 n h hpos =>
    subst hn
    have hsingle : max 1 (spaceRuns left.toNat).length = 1 := by
      rw [spaceRuns_of_le hpos (not_lt.mp h), List.length_singleton, max_self]
    rw [hsingle, Function.iterate_one, pass_of_le (not_lt.mp h)]
  | case3 n h hpos =>
    subst hn
    have hnone : max 1 (spaceRuns left.toNat).length = 1 := by
      rw [Nat.eq_zero_of_not_pos hpos, spaceRuns_zero, List.length_nil, max_eq_left zero_le_one]
    rw [hnone, Function.iterate_one, pass_of_le (not_lt.mp h)]

end Progress

/-! ## Indentations -/

/-- The indentation with words for its levels and for the spaces of each level. -/
def ofWords (levels unit : USize) : Indent := { levels := levels.toNat, unit := unit.toNat }

/-- The spaces of an indentation are a word unless the product overflows. -/
lemma toNat_mul_of_lt {levels unit : USize} (h : levels.toNat * unit.toNat < USize.size) :
    (levels * unit).toNat = (ofWords levels unit).depth := by
  rw [USize.toNat_mul]
  exact Nat.mod_eq_of_lt h

/-- **An indentation is written exactly.**  If the number of its spaces does not overflow, then the
loop that writes them comes to its end after one pass for each run, or one pass if there are none.
It never stops on the way, so no slice goes beyond the end of the full run.  What it has written in
the end are the runs of the indentation: they make up exactly the spaces, there are as few of them
as possible, none of them is empty, and all but the last one are full. -/
theorem spaces_written_exactly {σ : Type u} [Sink σ] (levels unit : USize)
    (hword : levels.toNat * unit.toNat < USize.size) (sink : σ) :
    MakeUp (ofWords levels unit).depth (ofWords levels unit).runs ∧
      Progress.pass^[max 1 ((ofWords levels unit).depth ⌈/⌉ runLength)]
          (.start levels unit sink) =
        .finished (Sink.writeAll sink (ofWords levels unit).runs) ∧
      ∀ k, (Progress.pass^[k] (.start levels unit sink)).OnTrack (ofWords levels unit).runs sink := by
  have hdepth := toNat_mul_of_lt hword
  refine ⟨makeUp_spaceRuns _, ?_, fun k => ?_⟩
  · rw [← length_spaceRuns, runs, ← hdepth]
    exact Progress.iterate_pass _ _
  · rw [runs, ← hdepth]
    exact Progress.onTrack_iterate _ _ k

/-- A multiple of the length of a full run is made up of full runs only. -/
theorem two_full_runs :
    (4 : USize).toNat * (32 : USize).toNat < USize.size ∧
      Progress.pass^[2] (.start 4 32 ({} : Memory)) =
        .finished { buffer := List.replicate 128 Bytes.space } := by
  have hfour : (4 : USize).toNat = 4 := USize.toNat_ofNat_of_lt_32 (by decide)
  have hwidth : (32 : USize).toNat = 32 := USize.toNat_ofNat_of_lt_32 (by decide)
  have hword : (4 : USize).toNat * (32 : USize).toNat < USize.size := by
    rw [hfour, hwidth]
    exact lt_of_lt_of_le (by decide) USize.le_size
  have hdepth : (ofWords 4 32).depth = 128 := by
    rw [ofWords, hfour, hwidth]
    rfl
  obtain ⟨hruns, hend, -⟩ := spaces_written_exactly 4 32 hword ({} : Memory)
  have hpasses : max 1 (128 ⌈/⌉ runLength) = 2 := by
    rw [Nat.ceilDiv_eq_add_pred_div]
    decide
  rw [hdepth, hpasses] at hend
  refine ⟨hword, hend.trans ?_⟩
  have hbuffer := Memory.buffer_writeAll {} (ofWords 4 32).runs
  rw [hruns.flatten, hdepth, List.nil_append] at hbuffer
  rw [← hbuffer]

end Indent

end WasmTrace
