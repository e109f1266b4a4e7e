import Mathlib.Tactic.Lemma
import WasmTrace.Sink.Latch

/-!
# The calls of a writer

Writing all of some bytes may take many calls: each may take a part of them, or be interrupted, and
one that fails is the last.  `Writer.Noting` is a writer that also keeps a list of its calls, so
that something can be said about the calls themselves and not only about what they took.

The main statements are `Writer.taken_writeAll`, what is taken is a beginning of the bytes and all
of them exactly if there is no fault, and `Writer.Noting.writeAll_eq`, the same is taken when the
calls are noted, and no call follows one that failed.
-/

namespace WasmTrace

universe u

namespace Writer

variable {ω : Type u} [Writer ω]

/-! ## What is taken -/

/-- Writing some bytes begins with one call, and its answer says how it goes on. -/
lemma writeAll_of_ne_nil (w : ω) {data : Bytes} (hdata : data ≠ []) :
    writeAll w data =
      match write w data with
      | (w', .accepted n) => if n = 0 then (w', some .wroteNothing) else writeAll w' (data.drop n)
      | (w', .interrupted) => writeAll w' data
      | (w', .failed reason) => (w', some (.reported reason)) := by
  rw [writeAll, dif_neg hdata]
  split
  · next hcall => rw [hcall]; rfl
  · next hcall => rw [hcall]
  · next hcall => rw [hcall]

/-- Writing nothing calls nobody. -/
lemma writeAll_nil (w : ω) : writeAll w [] = (w, none) := by
  rw [writeAll, dif_pos rfl]

/-- **What a writer takes** of bytes that are all to be written is a beginning of them, and it is
the whole exactly if there is no fault. -/
theorem taken_writeAll (w : ω) (data : Bytes) :
    ∃ accepted, taken (writeAll w data).1 = taken w ++ accepted ∧ accepted <+: data ∧
      (accepted = data ↔ (writeAll w data).2 = none) := by
  -- along the calls: each takes a first part of what the calls before it have left
  induction w, data using writeAll.induct with
  | case1 w =>
    rw [writeAll_nil]
    exact ⟨[], (List.append_nil _).symm, List.prefix_rfl, by simp⟩
  | case2 w data hdata w' hcall =>
    rw [writeAll_of_ne_nil w hdata, hcall]
    refine ⟨[], taken_accepted hcall, List.nil_prefix, ?_⟩
    exact iff_of_false (Ne.symm hdata) (Option.some_ne_none _)
  | case3 w data hdata w' n hcall hn ih =>
    obtain ⟨rest, htaken, hpart, hall⟩ := ih
    rw [writeAll_of_ne_nil w hdata, hcall]
    dsimp only
    rw [if_neg hn]
    have hdrop : data.take n ++ data.drop n = data := List.take_append_drop n data
    refine ⟨data.take n ++ rest, ?_, ?_, ?_⟩
    · rw [htaken, taken_accepted hcall, List.append_assoc]
    · have := (List.prefix_append_right_inj (data.take n)).mpr hpart
      rwa [hdrop] at this
    · rw [← hall]
      constructor
      · intro h
        exact List.append_cancel_left (h.trans hdrop.symm)
      · intro h
        rw [h, hdrop]
  | case4 w data hdata w' hcall ih =>
    obtain ⟨accepted, htaken, hpart, hall⟩ := ih
    rw [writeAll_of_ne_nil w hdata, hcall]
    exact ⟨accepted, by rw [htaken, taken_interrupted hcall], hpart, hall⟩
  | case5 w data hdata w' reason hcall =>
    rw [writeAll_of_ne_nil w hdata, hcall]
    refine ⟨[], ?_, List.nil_prefix, iff_of_false (Ne.symm hdata) (Option.some_ne_none _)⟩
    rw [List.append_nil]
    exact taken_failed hcall

/-! ## The calls -/

/-- A call of a writer, with the bytes it was given. -/
structure Attempt where
  /-- The bytes to be taken. -/
  data : Bytes
  /-- The answer. -/
  answer : WriteAnswer
  deriving DecidableEq, Repr

/-- Whether a call failed: it gave a reason, or took nothing without one. -/
def Attempt.failed (a : Attempt) : Bool :=
  match a.answer with
  | .accepted n => n == 0
  | .interrupted => false
  | .failed _ => true

/-- Calls none of which follows one that failed; `failed` says whether one did. -/
def StopAtFailure (calls : List Attempt) (failed : Bool) : Prop :=
  ∃ k, calls.map Attempt.failed = List.replicate k false ++ if failed then [true] else []

/-- Without any call none has failed. -/
lemma stopAtFailure_nil : StopAtFailure [] false := ⟨0, rfl⟩

/-- A call that did not fail may be followed by others. -/
lemma StopAtFailure.cons {a : Attempt} {calls : List Attempt} {failed : Bool}
    (ha : a.failed = false) (h : StopAtFailure calls failed) :
    StopAtFailure (a :: calls) failed := by
  obtain ⟨k, hk⟩ := h
  exact ⟨k + 1, by rw [List.map_cons, ha, hk]; rfl⟩

/-- A call that failed ends them. -/
lemma stopAtFailure_singleton {a : Attempt} (ha : a.failed = true) : StopAtFailure [a] true :=
  ⟨0, by rw [List.map_singleton, ha]; rfl⟩

/-- Calls of which none failed may be followed by others. -/
lemma StopAtFailure.append {calls more : List Attempt} {failed : Bool}
    (h : StopAtFailure calls false) (hmore : StopAtFailure more failed) :
    StopAtFailure (calls ++ more) failed := by
  obtain ⟨k, hk⟩ := h
  obtain ⟨l, hl⟩ := hmore
  refine ⟨k + l, ?_⟩
  rw [List.map_append, hk, hl, if_neg Bool.false_ne_true, List.append_nil, ← List.append_assoc,
    List.replicate_append_replicate]

/-- The same writer, which also keeps a list of its calls. -/
structure Noting (ω : Type u) where
  /-- The writer. -/
  writer : ω
  /-- The calls so far. -/
  attempts : List Attempt := []

namespace Noting

/-- A call is passed on and noted. -/
def write (s : Noting ω) (data : Bytes) : Noting ω × WriteAnswer :=
  match Writer.write s.writer data with
  | (writer, answer) => ({ writer, attempts := s.attempts ++ [{ data, answer }] }, answer)

/-- A noted call that is answered was a call of the writer, with the same answer. -/
lemma write_eq {s s' : Noting ω} {data : Bytes} {answer : WriteAnswer}
    (h : s.write data = (s', answer)) : Writer.write s.writer data = (s'.writer, answer) := by
  rw [write] at h
  obtain ⟨rfl, rfl⟩ := Prod.mk.inj h
  rfl

/-- A writer that notes its calls keeps the laws of writers. -/
instance instWriter : Writer (Noting ω) where
  write := write
  flush s :=
    match Writer.flush s.writer with
    | (writer, reason) => ({ s with writer }, reason)
  taken s := taken s.writer
  patience s := patience s.writer
  taken_accepted h := taken_accepted (write_eq h)
  taken_interrupted h := taken_interrupted (write_eq h)
  taken_failed h := taken_failed (write_eq h)
  patience_lt h := patience_lt (write_eq h)

/-- A writer that has noted no call. -/
def ofWriter (writer : ω) : Noting ω := { writer }

/-- What a call does to a writer that notes it. -/
lemma write_def (s : Noting ω) (data : Bytes) :
    Writer.write s data =
      ({ writer := (Writer.write s.writer data).1,
         attempts := s.attempts ++ [{ data, answer := (Writer.write s.writer data).2 }] },
        (Writer.write s.writer data).2) := rfl

/-- **The calls of writing everything.**  Noting them changes nothing else, and no call follows one
that failed; one failed exactly if there is a fault. -/
theorem writeAll_eq (s : Noting ω) (data : Bytes) :
    ∃ calls, StopAtFailure calls (writeAll s.writer data).2.isSome ∧
      writeAll s data =
        ({ writer := (writeAll s.writer data).1, attempts := s.attempts ++ calls },
          (writeAll s.writer data).2) := by
  obtain ⟨w, noted⟩ := s
  dsimp only
  induction w, data using writeAll.induct generalizing noted with
  | case1 w =>
    rw [writeAll_nil, writeAll_nil]
    exact ⟨[], stopAtFailure_nil, by rw [List.append_nil]⟩
  | case2 w data hdata w' hcall =>
    rw [writeAll_of_ne_nil w hdata, writeAll_of_ne_nil _ hdata, write_def, hcall]
    exact ⟨[⟨data, .accepted 0⟩], stopAtFailure_singleton rfl, rfl⟩
  | case3 w data hdata w' n hcall hn ih =>
    obtain ⟨calls, hcalls, heq⟩ := ih (noted ++ [⟨data, .accepted n⟩])
    rw [writeAll_of_ne_nil w hdata, writeAll_of_ne_nil _ hdata, write_def, hcall]
    dsimp only
    rw [if_neg hn, if_neg hn, heq]
    refine ⟨⟨data, .accepted n⟩ :: calls, hcalls.cons (beq_false_of_ne hn), ?_⟩
    rw [List.append_assoc, List.singleton_append]
  | case4 w data hdata w' hcall ih =>
    obtain ⟨calls, hcalls, heq⟩ := ih (noted ++ [⟨data, .interrupted⟩])
    rw [writeAll_of_ne_nil w hdata, writeAll_of_ne_nil _ hdata, write_def, hcall]
    dsimp only
    rw [heq]
    refine ⟨⟨data, .interrupted⟩ :: calls, hcalls.cons rfl, ?_⟩
    rw [List.append_assoc, List.singleton_append]
  | case5 w data hdata w' reason hcall =>
    rw [writeAll_of_ne_nil w hdata, writeAll_of_ne_nil _ hdata, write_def, hcall]
    exact ⟨[⟨data, .failed reason⟩], stopAtFailure_singleton rfl, rfl⟩

end Noting

end Writer

end WasmTrace
