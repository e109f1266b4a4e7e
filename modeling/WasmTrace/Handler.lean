import WasmTrace.Event
import WasmTrace.Sink.Memory

/-!
# Handlers

A handler is what events are raised for.  Most events ask it for a verdict: it accepts the event
or refuses it with an error of its own.  A problem found by the reader asks it whether it has
dealt with the problem, and a published position asks for nothing.

A handler answers from a state of its own.  It may look at the sink of the trace, so that it can
tell how much had been written when an event reached it; it cannot write to the sink.
-/

namespace WasmTrace

universe u v w

/-- What an event asks its handler for. -/
inductive Request where
  /-- Whether the event is accepted. -/
  | verdict
  /-- Whether a problem has been dealt with. -/
  | dealtWith
  /-- Nothing. -/
  | nothing
  deriving DecidableEq, Repr

/-- What an event of a kind asks its handler for. -/
def Kind.request : Kind → Request
  | .onError => .dealtWith
  | .onSetState => .nothing
  | _ => .verdict

/-- The answer of a handler, with errors of type `ε`. -/
inductive Reply (ε : Type w) where
  /-- The event is accepted. -/
  | accepted
  /-- The event is refused. -/
  | refused (error : ε)
  /-- Whether the problem has been dealt with. -/
  | dealtWith (b : Bool)
  /-- The event was received. -/
  | received
  deriving DecidableEq, Repr

/-- A handler with states `δ` and errors `ε`, which may look at sinks `σ`. -/
structure Handler (σ : Type u) (δ : Type v) (ε : Type w) where
  /-- The answer to an event, and the state after it. -/
  receive : σ → δ → Event → δ × Reply ε

namespace Handler

variable {σ : Type u} {ε : Type w}

/-- A handler that does not look at the sink. -/
def ofAnswers {δ : Type v} (answer : δ → Event → δ × Reply ε) : Handler σ δ ε :=
  ⟨fun _ => answer⟩

/-- The handler that accepts everything and deals with no problem. -/
def accepting : Handler σ Unit ε :=
  ofAnswers fun state e =>
    (state,
      match e.kind.request with
      | .verdict => .accepted
      | .dealtWith => .dealtWith false
      | .nothing => .received)

end Handler

end WasmTrace
