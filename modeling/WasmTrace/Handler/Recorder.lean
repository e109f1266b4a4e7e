import WasmTrace.Handler

/-!
# A handler that keeps a record

A recorder notes every event that reaches it and how much the sink held at that moment.  It
numbers the verdicts that it is asked for and refuses those whose numbers it was told.
-/

namespace WasmTrace

universe u

/-- The refusal of a recorder. -/
structure Refusal where
  /-- The kind of the refused event. -/
  kind : Kind
  /-- The number of the verdict. -/
  number : Nat
  deriving DecidableEq, Repr

/-- An event that reached a recorder. -/
structure Arrival where
  /-- The event. -/
  event : Event
  /-- How many bytes the sink held. -/
  held : Nat

/-- A handler that keeps a record. -/
structure Recorder where
  /-- The numbers of the verdicts that are refusals. -/
  refuses : List Nat := []
  /-- Whether problems are dealt with. -/
  dealsWithProblems : Bool := false
  /-- The number of verdicts given so far. -/
  verdicts : Nat := 0
  /-- Everything that arrived, in order. -/
  arrivals : List Arrival := []

namespace Recorder

/-- The answer of a recorder to an event that arrives while the sink holds `held` bytes. -/
def answer (r : Recorder) (held : Nat) (e : Event) : Recorder × Reply Refusal :=
  let r := { r with arrivals := r.arrivals ++ [⟨e, held⟩] }
  match e.kind.request with
  | .dealtWith => (r, .dealtWith r.dealsWithProblems)
  | .nothing => (r, .received)
  | .verdict =>
    ({ r with verdicts := r.verdicts + 1 },
      if r.verdicts ∈ r.refuses then .refused ⟨e.kind, r.verdicts⟩ else .accepted)

/-- A recorder as a handler. -/
def handler {σ : Type u} [Sink σ] : Handler σ Recorder Refusal :=
  ⟨fun s r e => r.answer (Sink.kept s).length e⟩

end Recorder

end WasmTrace
