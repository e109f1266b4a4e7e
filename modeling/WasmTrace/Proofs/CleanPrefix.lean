import WasmTrace.Proofs.Attempts
import WasmTrace.Proofs.Simulation
import WasmTrace.Sink.Memory
import WasmTrace.Writer.Scripted

/-!
# A clean beginning of the trace

A writer may take bytes in any portions, be interrupted, and fail inside any part of any line.  A
latch over it is compared with a sink in memory that receives the same: `Latch.Tracks` says that
the writer has taken a beginning of what the memory holds, and all of it exactly while the latch is
open.  Each write keeps this, whatever the writer answers.

The main statement is `writer_takes_clean_prefix`: that holds after every step of a run, nobody but
the writer notices a failure, and the writer is not called again after it.
-/

namespace WasmTrace

universe u v w

namespace Latch

variable {ω : Type u} [Writer ω]

/-! ## One write -/

/-- A closed latch drops what it receives. -/
lemma write_of_closed {s : Latch ω} (h : s.closed = true) (data : Bytes) : s.write data = s := by
  rw [write, if_pos h]

/-- An open latch has its writer write all that it receives, and closes if there is a fault. -/
lemma write_of_open {s : Latch ω} (h : s.closed = false) (data : Bytes) :
    (s.write data).writer = (Writer.writeAll s.writer data).1 ∧
      (s.write data).closed = (Writer.writeAll s.writer data).2.isSome := by
  have hopen : ¬ s.closed = true := by rw [h]; exact Bool.false_ne_true
  rw [write, if_neg hopen]
  rcases Writer.writeAll s.writer data with ⟨writer, _ | fault⟩
  · exact ⟨rfl, h⟩
  · exact ⟨rfl, rfl⟩

/-! ## A latch and a sink in memory -/

/-- What a latch has passed on, against a sink in memory that received the same.  After `before`,
which the writer had taken earlier, the writer has accepted a beginning of what the memory holds,
and the whole exactly while the latch is open. -/
def Tracks (before : Bytes) (s : Latch ω) (m : Memory) : Prop :=
  ∃ accepted, Writer.taken s.writer = before ++ accepted ∧ accepted <+: m.buffer ∧
    (accepted = m.buffer ↔ s.closed = false)

/-- An open latch that has received nothing. -/
lemma tracks_ofWriter (w : ω) : Tracks (Writer.taken w) (ofWriter w) {} :=
  ⟨[], (List.append_nil _).symm, List.prefix_rfl, iff_of_true rfl rfl⟩

/-- **Whatever the writer answers**, a latch goes on to hold a beginning of what the memory
holds. -/
theorem tracks_lasting (before : Bytes) :
    Sink.Lasting (Tracks before : Latch ω → Memory → Prop) := by
  rintro s m data ⟨accepted, htaken, hbegins, hall⟩
  change Tracks before (s.write data) { m with buffer := m.buffer ++ data }
  cases hclosed : s.closed with
  | true =>
    -- something is missing already, so it stays a strict beginning
    have hmissing : accepted ≠ m.buffer := fun h => by
      have hopen := hall.mp h
      rw [hclosed] at hopen
      cases hopen
    have hstill : accepted ≠ m.buffer ++ data := fun h => by
      have hback : m.buffer <+: accepted := h ▸ List.prefix_append m.buffer data
      exact hmissing (hbegins.eq_of_length_le hback.length_le)
    rw [write_of_closed hclosed]
    refine ⟨accepted, htaken, hbegins.trans (List.prefix_append _ _), iff_of_false hstill ?_⟩
    rw [hclosed]
    exact nofun
  | false =>
    obtain rfl : accepted = m.buffer := hall.mpr hclosed
    obtain ⟨hwriter, hfault⟩ := write_of_open hclosed data
    obtain ⟨more, hmore, hpart, hwhole⟩ := Writer.taken_writeAll s.writer data
    refine ⟨m.buffer ++ more, ?_, ?_, ?_⟩
    · rw [hwriter, hmore, htaken, List.append_assoc]
    · exact (List.prefix_append_right_inj m.buffer).mpr hpart
    · rw [hfault, Option.isSome_eq_false_iff, Option.isNone_iff_eq_none, ← hwhole]
      exact List.append_right_inj m.buffer

/-! ## A latch and its calls -/

/-- The same latch over a writer that notes its calls: it differs in nothing else, and the writer
was not called again after a call that failed, which happened exactly if the latch is closed. -/
def Noted (s : Latch ω) (s' : Latch (Writer.Noting ω)) : Prop :=
  s = { s' with writer := s'.writer.writer } ∧ Writer.StopAtFailure s'.writer.attempts s'.closed

/-- **No call follows one that failed**, whatever a latch receives. -/
theorem noted_lasting : Sink.Lasting (Noted : Latch ω → Latch (Writer.Noting ω) → Prop) := by
  rintro _ ⟨noting, closed, fault, warnings⟩ data ⟨rfl, hcalls⟩
  change Noted (write _ data) (write _ data)
  cases closed with
  | true => exact ⟨rfl, hcalls⟩
  | false =>
    obtain ⟨calls, hmore, heq⟩ := Writer.Noting.writeAll_eq noting data
    rw [write, write, if_neg Bool.false_ne_true, if_neg Bool.false_ne_true, heq]
    rcases hw : Writer.writeAll noting.writer data with ⟨writer, _ | fault⟩
    · rw [hw] at hmore
      exact ⟨rfl, hcalls.append hmore⟩
    · rw [hw] at hmore
      exact ⟨rfl, hcalls.append hmore⟩

end Latch

namespace Tracer

variable {ω : Type u} [Writer ω] {δ : Type v} {ε : Type w}

/-- **A writer takes a clean beginning of the trace.**  Raise the same events through the same
layers, in front of the same handler, once over a writer that answers as it likes and once over a
sink in memory.  Then step by step:

* the outcomes, the levels and positions of all layers and the state of the handler are the same,
  and so are all calls of the handler;
* what the writer has accepted is a beginning of what the memory holds, the whole while the latch is
  open and a strict beginning once it is closed.

A run over the same writer with its calls noted takes the same steps, and shows that the latch is
closed exactly if a call has failed, and that no call follows it. -/
theorem writer_takes_clean_prefix (answer : δ → Event → δ × Reply ε) (layers : List Layer)
    (w : ω) (inner : δ) (es : List Event) :
    let latched : Tracer (Latch ω) δ := { layers, sink := .ofWriter w, inner }
    let kept : Tracer Memory δ := { layers, sink := {}, inner }
    let noted : Tracer (Latch (Writer.Noting ω)) δ :=
      { layers, sink := .ofWriter (.ofWriter w), inner }
    List.Forall₂ (Step.Alike (Latch.Tracks (Writer.taken w)))
        (latched.history (.ofAnswers answer) es) (kept.history (.ofAnswers answer) es) ∧
      (kept.calls (.ofAnswers answer) es).map (fun c => (c.event, c.reply)) =
        (latched.calls (.ofAnswers answer) es).map (fun c => (c.event, c.reply)) ∧
      List.Forall₂ (Step.Alike Latch.Noted) (latched.history (.ofAnswers answer) es)
        (noted.history (.ofAnswers answer) es) := by
  intro latched kept noted
  have hkept : latched.Alike (Latch.Tracks (Writer.taken w)) kept :=
    ⟨rfl, Latch.tracks_ofWriter w, rfl⟩
  have hnoted : latched.Alike Latch.Noted noted := ⟨rfl, ⟨rfl, Writer.stopAtFailure_nil⟩, rfl⟩
  exact ⟨hkept.history (Latch.tracks_lasting _) answer es,
    hkept.calls (Latch.tracks_lasting _) answer es,
    hnoted.history Latch.noted_lasting answer es⟩

/-- A writer that fails inside a name, after a short call and an interruption, has taken the letters
before the failure and is called no more. -/
example :
    let w : Scripted := { script := [.atMost 3, .interrupt, .atMost 2, .fail "closed"] }
    let start : Tracer (Latch Scripted) Unit := .fresh [2] (.ofWriter w) ()
    let es : List Event := [⟨.beginModule, .cons 1 .nil⟩, ⟨.endModule, .nil⟩]
    let s := (start.run (ε := Empty) .accepting es).1.sink
    s.closed = true ∧ s.writer.output = Bytes.ofText "Begin" ∧ s.writer.calls = 4 := by
  simp only [run, raise_eq]
  cbv

end Tracer

end WasmTrace
