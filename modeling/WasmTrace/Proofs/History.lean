import Mathlib.Tactic.Lemma
import WasmTrace.Tracer

/-!
# Runs step by step

What an event does to the layers and to the sink does not depend on the handler: `descend` is that
part of raising an event, and `raise_eq` says what the handler adds to it.

A run is looked at in two ways.  Its *history* lists, step by step, the event that was raised, what
came back and the tracer after it.  Its *calls* are what the handler itself notices: `calls` runs
the tracer with a handler that notes each event it receives, the sink at that moment, and its own
answer.  The main statement is `calls_eq_filterMap_history`: the handler notices exactly the steps
that were answered.
-/

namespace WasmTrace

universe u v w v'

/-! ## Outcomes, steps and calls -/

namespace Outcome

variable {ε : Type w}

/-- The answer of the handler, if the event reached it. -/
def reply? : Outcome ε → Option (Reply ε)
  | .replied reply => some reply
  | .unmatched _ => none

/-- Whether the event reached the handler. -/
def isReplied (o : Outcome ε) : Bool := o.reply?.isSome

@[simp] lemma reply?_replied (r : Reply ε) : (Outcome.replied r).reply? = some r := rfl

@[simp] lemma reply?_unmatched (c : Unmatched) : (Outcome.unmatched c : Outcome ε).reply? = none :=
  rfl

@[simp] lemma isReplied_replied (r : Reply ε) : (Outcome.replied r).isReplied = true := rfl

@[simp] lemma isReplied_unmatched (c : Unmatched) :
    (Outcome.unmatched c : Outcome ε).isReplied = false := rfl

/-- All events were answered exactly if none is counted as rejected. -/
lemma all_isReplied_iff (outcomes : List (Outcome ε)) :
    outcomes.all isReplied = true ↔ (outcomes.countP fun o => !o.isReplied) = 0 := by
  rw [List.all_eq_true, List.countP_eq_zero]
  simp only [Bool.not_eq_true, Bool.not_eq_false']

end Outcome

/-- A call of a handler, as the handler notices it. -/
structure Call (σ : Type u) (ε : Type w) where
  /-- The event that was received. -/
  event : Event
  /-- The sink when the event was received. -/
  sink : σ
  /-- The answer that was given. -/
  reply : Reply ε

/-- A step of a run. -/
structure Step (σ : Type u) (δ : Type v) (ε : Type w) where
  /-- The event that was raised. -/
  event : Event
  /-- What came back. -/
  outcome : Outcome ε
  /-- The tracer after the step. -/
  after : Tracer σ δ

namespace Step

variable {σ : Type u} {δ : Type v} {ε : Type w}

/-- Whether the event of a step reached the handler. -/
def isReplied (s : Step σ δ ε) : Bool := s.outcome.isReplied

/-- The call that a step makes, if its event reaches the handler. -/
def call? (s : Step σ δ ε) : Option (Call σ ε) :=
  s.outcome.reply?.map fun reply => { event := s.event, sink := s.after.sink, reply }

end Step

/-- The same handler, which also keeps a list of its calls. -/
def Handler.noting {σ : Type u} {δ : Type v} {ε : Type w} (h : Handler σ δ ε) :
    Handler σ (δ × List (Call σ ε)) ε :=
  ⟨fun sink state e =>
    match h.receive sink state.1 e with
    | (inner, reply) => ((inner, state.2 ++ [{ event := e, sink, reply }]), reply)⟩

namespace Tracer

variable {σ : Type u} {δ : Type v} {ε : Type w} [Sink σ]

/-! ## Raising an event -/

/-- What an event does to layers and a sink on its way to the handler: the layers and the sink
after it, and the failure that kept it from the handler, if there was one. -/
def descend (e : Event) : List Layer → σ → List Layer × σ × Option Unmatched
  | [], sink => ([], sink, none)
  | layer :: layers, sink =>
    match layer.log e with
    | .error cause => (layer :: layers, sink, some cause)
    | .ok (layer, parts) =>
      match descend e layers (Sink.writeAll sink parts) with
      | (layers, sink, cause) => (layer :: layers, sink, cause)

/-- The rest of an event's way: the handler receives it unless a failure kept it away. -/
def answer (h : Handler σ δ ε) (e : Event) (inner : δ) :
    List Layer × σ × Option Unmatched → Tracer σ δ × Outcome ε
  | (layers, sink, some cause) => ({ layers, sink, inner }, .unmatched cause)
  | (layers, sink, none) =>
    ({ layers, sink, inner := (h.receive sink inner e).1 }, .replied (h.receive sink inner e).2)

lemma pass_eq (h : Handler σ δ ε) (e : Event) (layers : List Layer) (sink : σ) (inner : δ) :
    pass h e layers sink inner = answer h e inner (descend e layers sink) := by
  induction layers generalizing sink with
  | nil => rfl
  | cons layer layers ih =>
    unfold pass descend
    cases layer.log e with
    | error cause => rfl
    | ok written =>
      obtain ⟨layer', parts⟩ := written
      dsimp only
      rw [e.forwarded_eq, ih]
      rcases descend e layers (Sink.writeAll sink parts) with ⟨layers', sink', _ | cause⟩ <;> rfl

/-- **Raising an event.**  The handler has no part in what happens to the layers and to the sink,
and it receives the event unchanged, after all of that, unless a layer failed. -/
theorem raise_eq (h : Handler σ δ ε) (t : Tracer σ δ) (e : Event) :
    t.raise h e = answer h e t.inner (descend e t.layers t.sink) :=
  pass_eq h e t.layers t.sink t.inner

/-! ## Runs -/

lemma run_cons (h : Handler σ δ ε) (t : Tracer σ δ) (e : Event) (es : List Event) :
    t.run h (e :: es) =
      (((t.raise h e).1.run h es).1, (t.raise h e).2 :: ((t.raise h e).1.run h es).2) := rfl

/-- A run may be made in two goes. -/
lemma run_append (h : Handler σ δ ε) (t : Tracer σ δ) (es fs : List Event) :
    t.run h (es ++ fs) =
      (((t.run h es).1.run h fs).1, (t.run h es).2 ++ ((t.run h es).1.run h fs).2) := by
  induction es generalizing t with
  | nil => rfl
  | cons e es ih => rw [List.cons_append, run_cons, ih, run_cons, List.cons_append]

/-- A run with one more event. -/
lemma run_concat (h : Handler σ δ ε) (t : Tracer σ δ) (es : List Event) (e : Event) :
    t.run h (es ++ [e]) =
      (((t.run h es).1.raise h e).1, (t.run h es).2 ++ [((t.run h es).1.raise h e).2]) :=
  run_append h t es [e]

/-! ## Histories -/

/-- The steps of a run, in order. -/
def history (h : Handler σ δ ε) (t : Tracer σ δ) : List Event → List (Step σ δ ε)
  | [] => []
  | e :: es =>
    { event := e, outcome := (t.raise h e).2, after := (t.raise h e).1 } ::
      history h (t.raise h e).1 es

/-- The events of a run that reach the handler: all but those that a layer rejects. -/
def accepted (h : Handler σ δ ε) (t : Tracer σ δ) (es : List Event) : List Event :=
  ((t.history h es).filter Step.isReplied).map Step.event

/-- The first event of a run is accepted if it is answered. -/
lemma accepted_cons (h : Handler σ δ ε) (t : Tracer σ δ) (e : Event) (es : List Event) :
    t.accepted h (e :: es) =
      if (t.raise h e).2.isReplied then e :: (t.raise h e).1.accepted h es
      else (t.raise h e).1.accepted h es := by
  rw [accepted, history, List.filter_cons, Step.isReplied]
  split <;> rfl

/-- Every event makes one step. -/
lemma map_event_history (h : Handler σ δ ε) (t : Tracer σ δ) (es : List Event) :
    (t.history h es).map Step.event = es := by
  induction es generalizing t with
  | nil => rfl
  | cons e es ih => rw [history, List.map_cons, ih]

/-- The outcomes of the steps are those of the run. -/
lemma map_outcome_history (h : Handler σ δ ε) (t : Tracer σ δ) (es : List Event) :
    (t.history h es).map Step.outcome = (t.run h es).2 := by
  induction es generalizing t with
  | nil => rfl
  | cons e es ih => rw [history, List.map_cons, ih, run_cons]

/-- As many outcomes come back as events were raised. -/
lemma length_run (h : Handler σ δ ε) (t : Tracer σ δ) (es : List Event) :
    (t.run h es).2.length = es.length := by
  rw [← map_outcome_history, List.length_map, ← List.length_map Step.event, map_event_history]

/-! ## Calls -/

/-- The same tracer in front of a handler that keeps a list of its calls. -/
def withCalls (t : Tracer σ δ) (calls : List (Call σ ε)) : Tracer σ (δ × List (Call σ ε)) :=
  { layers := t.layers, sink := t.sink, inner := (t.inner, calls) }

/-- The calls that the handler notices during a run, in order. -/
def calls (h : Handler σ δ ε) (t : Tracer σ δ) (es : List Event) : List (Call σ ε) :=
  ((t.withCalls []).run h.noting es).1.inner.2

lemma raise_withCalls (h : Handler σ δ ε) (t : Tracer σ δ) (calls : List (Call σ ε)) (e : Event) :
    (t.withCalls calls).raise h.noting e =
      ((t.raise h e).1.withCalls (calls ++
        ((t.raise h e).2.reply?.map fun r => ⟨e, (t.raise h e).1.sink, r⟩).toList),
        (t.raise h e).2) := by
  rw [raise_eq, raise_eq]
  change answer h.noting e (t.inner, calls) (descend e t.layers t.sink) = _
  rcases descend e t.layers t.sink with ⟨layers, sink, _ | cause⟩
  · rfl
  · simp [answer, withCalls]

/-- Noting the calls changes nothing else, and what is noted are the answered steps. -/
lemma run_withCalls (h : Handler σ δ ε) (t : Tracer σ δ) (calls : List (Call σ ε))
    (es : List Event) :
    (t.withCalls calls).run h.noting es =
      ((t.run h es).1.withCalls (calls ++ (t.history h es).filterMap Step.call?),
        (t.run h es).2) := by
  induction es generalizing t calls with
  | nil => rw [history, List.filterMap_nil, List.append_nil]; rfl
  | cons e es ih =>
    rw [run_cons, raise_withCalls, ih, run_cons, history, List.filterMap_cons, Step.call?]
    dsimp only
    cases (t.raise h e).2.reply? with
    | none => rw [Option.map_none, Option.toList_none, List.append_nil]
    | some r => rw [Option.map_some, Option.toList_some, List.append_assoc]; rfl

/-- **Calls and history.**  The handler notices exactly the steps that were answered. -/
theorem calls_eq_filterMap_history (h : Handler σ δ ε) (t : Tracer σ δ) (es : List Event) :
    t.calls h es = (t.history h es).filterMap Step.call? := by
  rw [calls, run_withCalls]
  rfl

end Tracer

end WasmTrace
