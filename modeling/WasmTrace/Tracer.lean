import WasmTrace.Handler
import WasmTrace.Layer

/-!
# Tracing a run

A tracer is a stack of layers over one sink, with a handler innermost.  An event is raised on the
outermost layer; each layer writes its line and then raises `Event.forwarded` on what it wraps, and
the answer of the handler comes back unchanged.  So the lines of an event stand in the sink, from the
outermost layer to the innermost, before the handler receives it.

An event that closes a level which a layer has not opened goes no further than this layer.
-/

namespace WasmTrace

universe u v w

/-- A stack of layers over a sink and the state of a handler. -/
structure Tracer (σ : Type u) (δ : Type v) where
  /-- The layers, the outermost first. -/
  layers : List Layer
  /-- The sink that all layers write to. -/
  sink : σ
  /-- The state of the handler. -/
  inner : δ

/-- What comes back from raising an event. -/
inductive Outcome (ε : Type w) where
  /-- The answer of the handler. -/
  | replied (reply : Reply ε)
  /-- The event closes a level that was not open. -/
  | unmatched (cause : Unmatched)
  deriving DecidableEq, Repr

namespace Tracer

variable {σ : Type u} {δ : Type v} {ε : Type w}

/-- Layers that have seen no event, given by their units from the outermost to the innermost. -/
def fresh (units : List Nat) (sink : σ) (inner : δ) : Tracer σ δ :=
  { layers := units.map Layer.fresh, sink, inner }

/-- Passes an event through layers, from the first to the last, and on to the handler. -/
def pass [Sink σ] (h : Handler σ δ ε) :
    Event → List Layer → σ → δ → Tracer σ δ × Outcome ε
  | e, [], sink, inner =>
    let (inner, reply) := h.receive sink inner e
    ({ layers := [], sink, inner }, .replied reply)
  | e, layer :: layers, sink, inner =>
    match layer.log e with
    | .error cause => ({ layers := layer :: layers, sink, inner }, .unmatched cause)
    | .ok (layer, parts) =>
      let (t, outcome) := pass h e.forwarded layers (Sink.writeAll sink parts) inner
      ({ t with layers := layer :: t.layers }, outcome)

/-- Raises an event on the outermost layer. -/
def raise [Sink σ] (h : Handler σ δ ε) (t : Tracer σ δ) (e : Event) : Tracer σ δ × Outcome ε :=
  pass h e t.layers t.sink t.inner

/-- Raises events in order, and goes on after each whatever came back. -/
def run [Sink σ] (h : Handler σ δ ε) (t : Tracer σ δ) : List Event → Tracer σ δ × List (Outcome ε)
  | [] => (t, [])
  | e :: es =>
    let (t, outcome) := t.raise h e
    let (t, outcomes) := t.run h es
    (t, outcome :: outcomes)

/-- The spaces in front of the next line of the outermost layer. -/
def depth (t : Tracer σ δ) : Nat := (t.layers.head?.map Layer.depth).getD 0

/-- The position that the outermost layer has seen last. -/
def position (t : Tracer σ δ) : Option Position := t.layers.head?.bind Layer.position

end Tracer

end WasmTrace
