import WasmTrace.Proofs.History
import WasmTrace.Proofs.Levels

/-!
# Layers forward what they see

Layers write lines, and otherwise an event passes through them as if they were not there: each call
on the way hands it on as it came, `Event.forwarded_eq`.  The second side of the comparison is a
handler that is driven directly, `Handler.drive`.

The main statement is `forwards_accepted`: behind any stack of layers a handler receives the
events that no layer rejects, each once and in order, with all their arguments; it answers them as
it does when it is driven directly; and what it answers has no influence on what is written or on
what it receives later.
-/

namespace WasmTrace

universe u v w v' w'

namespace Handler

variable {δ : Type v} {ε : Type w}

/-- A handler without layers in front of it: its state after the events, and its answers. -/
def drive (answer : δ → Event → δ × Reply ε) (state : δ) : List Event → δ × List (Reply ε)
  | [] => (state, [])
  | e :: es =>
    match answer state e with
    | (state, reply) =>
      match drive answer state es with
      | (state, replies) => (state, reply :: replies)

lemma drive_cons (answer : δ → Event → δ × Reply ε) (state : δ) (e : Event) (es : List Event) :
    drive answer state (e :: es) =
      ((drive answer (answer state e).1 es).1,
        (answer state e).2 :: (drive answer (answer state e).1 es).2) := rfl

end Handler

namespace Tracer

variable {σ : Type u} {δ : Type v} {ε : Type w} [Sink σ]

/-! ## The handler is driven by the accepted events -/

/-- An event that reaches the handler is answered from the state of the handler alone. -/
lemma raise_of_replied {answer : δ → Event → δ × Reply ε} {t : Tracer σ δ} {e : Event}
    {r : Reply ε} (h : (t.raise (.ofAnswers answer) e).2 = .replied r) :
    answer t.inner e = ((t.raise (.ofAnswers answer) e).1.inner, r) := by
  rw [raise_eq] at h ⊢
  rcases hd : descend e t.layers t.sink with ⟨layers, sink, _ | cause⟩
  · rw [hd] at h
    have hr : (answer t.inner e).2 = r := Outcome.replied.inj h
    rw [← hr]
    rfl
  · rw [hd] at h
    cases h

/-- An event that a layer rejects does not touch the handler. -/
lemma raise_of_unmatched {h : Handler σ δ ε} {t : Tracer σ δ} {e : Event} {c : Unmatched}
    (hu : (t.raise h e).2 = .unmatched c) : (t.raise h e).1.inner = t.inner := by
  rw [raise_eq] at hu ⊢
  rcases hd : descend e t.layers t.sink with ⟨layers, sink, _ | cause⟩
  · rw [hd] at hu
    cases hu
  · rfl

/-- A run drives the handler with the accepted events. -/
lemma run_eq_drive (answer : δ → Event → δ × Reply ε) (t : Tracer σ δ) (es : List Event) :
    Handler.drive answer t.inner (t.accepted (.ofAnswers answer) es) =
      ((t.run (.ofAnswers answer) es).1.inner,
        (t.run (.ofAnswers answer) es).2.filterMap Outcome.reply?) := by
  induction es generalizing t with
  | nil => rfl
  | cons e es ih =>
    rw [accepted_cons, run_cons, List.filterMap_cons]
    cases ho : (t.raise (.ofAnswers answer) e).2 with
    | replied r =>
      rw [Outcome.isReplied_replied, if_pos rfl, Handler.drive_cons, raise_of_replied ho, ih]
      rfl
    | unmatched c =>
      rw [Outcome.isReplied_unmatched, if_neg Bool.false_ne_true, ← raise_of_unmatched ho, ih]
      rfl

/-! ## Only closing events are rejected -/

/-- No layer stops an event that closes no level. -/
lemma descend_of_ne_closes {e : Event} (he : e.role ≠ .closes) (layers : List Layer) (sink : σ) :
    (descend e layers sink).2.2 = none := by
  induction layers generalizing sink with
  | nil => rfl
  | cons layer layers ih =>
    obtain ⟨⟨layer', parts⟩, hlog⟩ := layer.log_isOk_of_ne_closes he
    rw [descend, hlog]
    exact ih (Sink.writeAll sink parts)

/-- An event that closes no level reaches the handler. -/
lemma isReplied_of_ne_closes (h : Handler σ δ ε) (t : Tracer σ δ) {e : Event}
    (he : e.role ≠ .closes) : (t.raise h e).2.isReplied = true := by
  have hcause := descend_of_ne_closes he t.layers t.sink
  rw [raise_eq]
  rcases hd : descend e t.layers t.sink with ⟨layers, sink, _ | cause⟩
  · rfl
  · rw [hd] at hcause
    cases hcause

/-- All events that close no level are accepted. -/
lemma filter_accepted (h : Handler σ δ ε) (t : Tracer σ δ) (es : List Event) :
    (t.accepted h es).filter (·.role != .closes) = es.filter (·.role != .closes) := by
  induction es generalizing t with
  | nil => rfl
  | cons e es ih =>
    rw [accepted_cons, List.filter_cons]
    by_cases he : e.role = .closes
    · have hout : ¬ (e.role != .closes) = true := by simp [he]
      rw [if_neg hout]
      split
      · rw [List.filter_cons, if_neg hout, ih]
      · rw [ih]
    · have hin : (e.role != .closes) = true := by simp [he]
      rw [if_pos hin, if_pos (isReplied_of_ne_closes h t he), List.filter_cons, if_pos hin, ih]

/-! ## What the handler notices -/

/-- The handler receives the accepted events. -/
lemma map_event_calls (h : Handler σ δ ε) (t : Tracer σ δ) (es : List Event) :
    (t.calls h es).map Call.event = t.accepted h es := by
  rw [calls_eq_filterMap_history, accepted]
  induction t.history h es with
  | nil => rfl
  | cons s steps ih =>
    obtain ⟨e, _ | _, after⟩ := s
    · exact congrArg (e :: ·) ih
    · exact ih

/-- The answers of the handler are those that come back from the run. -/
lemma map_reply_calls (h : Handler σ δ ε) (t : Tracer σ δ) (es : List Event) :
    (t.calls h es).map Call.reply = (t.run h es).2.filterMap Outcome.reply? := by
  rw [calls_eq_filterMap_history, ← map_outcome_history]
  induction t.history h es with
  | nil => rfl
  | cons s steps ih =>
    obtain ⟨e, r | _, after⟩ := s
    · exact congrArg (r :: ·) ih
    · exact ih

/-! ## The handler has no influence -/

variable {δ' : Type v'} {ε' : Type w'}

/-- The same layers and the same sink, whatever stands behind them. -/
def SameFront (t : Tracer σ δ) (t' : Tracer σ δ') : Prop :=
  t'.layers = t.layers ∧ t'.sink = t.sink

/-- An event that is raised in front of two handlers that do not look at the sink leaves the same
layers and the same sink, and reaches both of them or none. -/
lemma raise_sameFront {t : Tracer σ δ} {t' : Tracer σ δ'} (h : Handler σ δ ε)
    (h' : Handler σ δ' ε') (e : Event) (hf : SameFront t t') :
    SameFront (t.raise h e).1 (t'.raise h' e).1 ∧
      (t'.raise h' e).2.isReplied = (t.raise h e).2.isReplied := by
  rw [raise_eq, raise_eq, hf.1, hf.2]
  rcases descend e t.layers t.sink with ⟨layers, sink, _ | cause⟩
  · exact ⟨⟨rfl, rfl⟩, rfl⟩
  · exact ⟨⟨rfl, rfl⟩, rfl⟩

/-- Two runs over the same layers and the same sink write the same and accept the same. -/
lemma run_sameFront {t : Tracer σ δ} {t' : Tracer σ δ'} (h : Handler σ δ ε)
    (h' : Handler σ δ' ε') (es : List Event) (hf : SameFront t t') :
    SameFront (t.run h es).1 (t'.run h' es).1 ∧ t'.accepted h' es = t.accepted h es := by
  induction es generalizing t t' with
  | nil => exact ⟨hf, rfl⟩
  | cons e es ih =>
    obtain ⟨hf', hr⟩ := raise_sameFront h h' e hf
    obtain ⟨hrun, hacc⟩ := ih hf'
    rw [accepted_cons, accepted_cons, hr, hacc]
    exact ⟨hrun, rfl⟩

/-! ## Forwarding -/

/-- **Forwarding.**  Let a handler stand behind any stack of layers over any sink.  It receives
exactly the events that no layer rejects, in order and with all their arguments, those that no
line shows included; only events that close a level are ever rejected.  It answers each of them as
it does when it is driven with them directly, its answers come back unchanged, and it ends in the
same state.  Any other handler in its place, one that refuses nothing say, leaves the same layers
and the same sink and receives the same events. -/
theorem forwards_accepted (answer : δ → Event → δ × Reply ε) (t : Tracer σ δ) (es : List Event) :
    let h : Handler σ δ ε := .ofAnswers answer
    let alone := Handler.drive answer t.inner (t.accepted h es)
    (t.calls h es).map Call.event = t.accepted h es ∧
      (t.accepted h es).filter (·.role != .closes) = es.filter (·.role != .closes) ∧
      (t.calls h es).map Call.reply = alone.2 ∧
      (t.run h es).2.filterMap Outcome.reply? = alone.2 ∧
      (t.run h es).1.inner = alone.1 ∧
      ∀ (answer' : δ' → Event → δ' × Reply ε') (inner' : δ'),
        let h' : Handler σ δ' ε' := .ofAnswers answer'
        let t' : Tracer σ δ' := { layers := t.layers, sink := t.sink, inner := inner' }
        (t'.run h' es).1.layers = (t.run h es).1.layers ∧
          (t'.run h' es).1.sink = (t.run h es).1.sink ∧
          (t'.calls h' es).map Call.event = (t.calls h es).map Call.event := by
  intro h alone
  have halone : alone = ((t.run h es).1.inner, (t.run h es).2.filterMap Outcome.reply?) :=
    run_eq_drive answer t es
  refine ⟨map_event_calls h t es, filter_accepted h t es, ?_, ?_, ?_, ?_⟩
  · rw [halone, map_reply_calls]
  · rw [halone]
  · rw [halone]
  · intro answer' inner' h' t'
    have hfront : SameFront t t' := ⟨rfl, rfl⟩
    obtain ⟨⟨hlayers, hsink⟩, hacc⟩ := run_sameFront h h' es hfront
    refine ⟨hlayers, hsink, ?_⟩
    rw [map_event_calls, map_event_calls, hacc]

end Tracer

end WasmTrace
