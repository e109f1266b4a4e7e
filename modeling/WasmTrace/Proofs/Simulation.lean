import Mathlib.Data.List.Forall2
import Mathlib.Tactic.Lemma
import WasmTrace.Proofs.History

/-!
# Runs over related sinks

Nothing that layers do depends on the sink they write to, and a handler that does not look at the
sink cannot depend on it either.  So two runs of the same events over different sinks take the same
steps, and a relation between the sinks holds after each of them if every write keeps it.

The main statement is `Tracer.Alike.history`.  It compares any two sinks of which one tells what
the other one did, such as a sink that may lose bytes and one that keeps them all.
-/

namespace WasmTrace

universe u u' v w

variable {σ : Type u} {σ' : Type u'} {δ : Type v} {ε : Type w}

/-- A relation between sinks that lasts: receiving the same bytes keeps it. -/
def Sink.Lasting [Sink σ] [Sink σ'] (R : σ → σ' → Prop) : Prop :=
  ∀ (s : σ) (s' : σ') (data : Bytes), R s s' → R (Sink.write s data) (Sink.write s' data)

/-- A lasting relation is kept by several parts. -/
lemma Sink.Lasting.writeAll [Sink σ] [Sink σ'] {R : σ → σ' → Prop} (hR : Sink.Lasting R) {s : σ}
    {s' : σ'} (h : R s s') (parts : List Bytes) :
    R (Sink.writeAll s parts) (Sink.writeAll s' parts) := by
  induction parts generalizing s s' with
  | nil => exact h
  | cons part parts ih => exact ih (hR s s' part h)

/-- Tracers that differ in their sinks only, and whose sinks are related. -/
structure Tracer.Alike (R : σ → σ' → Prop) (t : Tracer σ δ) (t' : Tracer σ' δ) : Prop where
  /-- The layers are the same, with their levels, depths and positions. -/
  layers : t'.layers = t.layers
  /-- The sinks are related. -/
  sink : R t.sink t'.sink
  /-- The handlers are in the same state. -/
  inner : t'.inner = t.inner

/-- Steps that differ in the sinks after them only, and whose sinks are related. -/
structure Step.Alike (R : σ → σ' → Prop) (s : Step σ δ ε) (s' : Step σ' δ ε) : Prop where
  /-- The same event was raised. -/
  event : s'.event = s.event
  /-- The same came back, from a layer or from the handler. -/
  outcome : s'.outcome = s.outcome
  /-- The tracers after the steps are alike. -/
  after : s.after.Alike R s'.after

/-- Steps that are alike make the same calls, but for the sinks. -/
lemma Step.map_call?_alike {R : σ → σ' → Prop} {steps : List (Step σ δ ε)}
    {steps' : List (Step σ' δ ε)} (h : List.Forall₂ (Step.Alike R) steps steps') :
    (steps'.filterMap Step.call?).map (fun c => (c.event, c.reply)) =
      (steps.filterMap Step.call?).map fun c => (c.event, c.reply) := by
  induction h with
  | nil => rfl
  | @cons s s' steps steps' hs _ ih =>
    rw [List.filterMap_cons, List.filterMap_cons, Step.call?, Step.call?, hs.event, hs.outcome]
    cases s.outcome with
    | replied r => exact congrArg ((s.event, r) :: ·) ih
    | unmatched c => exact ih

namespace Tracer

variable [Sink σ] [Sink σ'] {R : σ → σ' → Prop} {t : Tracer σ δ} {t' : Tracer σ' δ}

/-- On its way through the layers an event meets the same fate over both sinks. -/
lemma descend_related (hR : Sink.Lasting R) (e : Event) (layers : List Layer) {s : σ} {s' : σ'}
    (h : R s s') :
    (descend e layers s').1 = (descend e layers s).1 ∧
      R (descend e layers s).2.1 (descend e layers s').2.1 ∧
      (descend e layers s').2.2 = (descend e layers s).2.2 := by
  induction layers generalizing s s' with
  | nil => exact ⟨rfl, h, rfl⟩
  | cons layer layers ih =>
    unfold descend
    cases layer.log e with
    | error cause => exact ⟨rfl, h, rfl⟩
    | ok written =>
      obtain ⟨layer', parts⟩ := written
      obtain ⟨hlayers, hsink, hcause⟩ := ih (hR.writeAll h parts)
      exact ⟨congrArg (layer' :: ·) hlayers, hsink, hcause⟩

/-- **One event over two sinks.**  The tracers stay alike, and the same comes back. -/
theorem Alike.raise (hR : Sink.Lasting R) (answer : δ → Event → δ × Reply ε) (h : t.Alike R t')
    (e : Event) :
    (t.raise (.ofAnswers answer) e).1.Alike R (t'.raise (.ofAnswers answer) e).1 ∧
      (t'.raise (.ofAnswers answer) e).2 = (t.raise (.ofAnswers answer) e).2 := by
  obtain ⟨hlayers, hsink, hcause⟩ := descend_related hR e t.layers h.sink
  rw [raise_eq, raise_eq, h.layers, h.inner]
  rcases hd : descend e t.layers t.sink with ⟨layers, sink, cause⟩
  rcases hd' : descend e t.layers t'.sink with ⟨layers', sink', cause'⟩
  rw [hd, hd'] at hlayers hsink hcause
  dsimp only at hlayers hsink hcause
  subst hlayers hcause
  cases cause' with
  | none => exact ⟨⟨rfl, hsink, rfl⟩, rfl⟩
  | some cause => exact ⟨⟨rfl, hsink, rfl⟩, rfl⟩

/-- The tracers after a run over two sinks are alike. -/
lemma Alike.run (hR : Sink.Lasting R) (answer : δ → Event → δ × Reply ε) (h : t.Alike R t')
    (es : List Event) :
    (t.run (.ofAnswers answer) es).1.Alike R (t'.run (.ofAnswers answer) es).1 := by
  induction es generalizing t t' with
  | nil => exact h
  | cons e es ih => exact ih (h.raise hR answer e).1

/-- **A run over two sinks.**  The steps are alike, one by one. -/
theorem Alike.history (hR : Sink.Lasting R) (answer : δ → Event → δ × Reply ε) (h : t.Alike R t')
    (es : List Event) :
    List.Forall₂ (Step.Alike R) (t.history (.ofAnswers answer) es)
      (t'.history (.ofAnswers answer) es) := by
  induction es generalizing t t' with
  | nil => exact .nil
  | cons e es ih =>
    obtain ⟨halike, houtcome⟩ := h.raise hR answer e
    exact .cons ⟨rfl, houtcome, halike⟩ (ih halike)

/-- A handler notices the same calls over both sinks, but for the sinks. -/
lemma Alike.calls (hR : Sink.Lasting R) (answer : δ → Event → δ × Reply ε) (h : t.Alike R t')
    (es : List Event) :
    (t'.calls (.ofAnswers answer) es).map (fun c => (c.event, c.reply)) =
      (t.calls (.ofAnswers answer) es).map fun c => (c.event, c.reply) := by
  rw [calls_eq_filterMap_history, calls_eq_filterMap_history]
  exact Step.map_call?_alike (h.history hR answer es)

end Tracer

end WasmTrace
