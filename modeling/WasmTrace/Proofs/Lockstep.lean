import Mathlib.Data.List.Induction
import WasmTrace.Proofs.History
import WasmTrace.Proofs.Levels

/-!
# Layers in lockstep

A layer closes its level and writes its line before the layer behind it looks at the event, so a
failure further in would leave an event half done.  It never comes to that: `InStep` says that all
layers have the same open levels and the same last position, and each event keeps it.

The main statement is `rejection_is_atomic`: after any run a rejected event has done nothing at
all, and a run without its rejected events is the same run.
-/

namespace WasmTrace

universe u v w

namespace Tracer

variable {σ : Type u} {δ : Type v} {ε : Type w}

/-- All layers, given by their units, have `n` open levels and saw the position `p` last. -/
def InStep (units : List Nat) (n : Nat) (p : Option Position) (t : Tracer σ δ) : Prop :=
  t.layers = units.map (Layer.opened n p)

/-- Layers that have seen no event are in step. -/
lemma inStep_fresh (units : List Nat) (sink : σ) (inner : δ) :
    InStep units 0 none (fresh units sink inner) := rfl

/-- The depth of layers in step is that of the outermost one. -/
lemma InStep.depth {unit : Nat} {units : List Nat} {n : Nat} {p : Option Position}
    {t : Tracer σ δ} (ht : InStep (unit :: units) n p t) : t.depth = n * unit := by
  rw [Tracer.depth, ht]
  rfl

variable [Sink σ]

/-! ## One event -/

/-- All layers write their lines, from the first to the last, if the event is not rejected. -/
lemma descend_opened {e : Event} {n : Nat} (h : ¬ e.role.Rejects n) (p : Option Position)
    (units : List Nat) (sink : σ) :
    descend e (units.map (Layer.opened n p)) sink =
      (units.map (Layer.opened (e.role.next n) (e.published p)),
        Sink.writeAll sink (units.flatMap (e.parts n)), none) := by
  induction units generalizing sink with
  | nil => rfl
  | cons unit units ih =>
    rw [List.map_cons, descend, Layer.log_opened, if_neg h]
    dsimp only
    rw [ih, List.map_cons, List.flatMap_cons, Sink.writeAll_append]

/-- A rejected event stops at the first layer. -/
lemma descend_opened_of_rejects {e : Event} {n : Nat} (h : e.role.Rejects n)
    (p : Option Position) (unit : Nat) (units : List Nat) (sink : σ) :
    descend e ((unit :: units).map (Layer.opened n p)) sink =
      ((unit :: units).map (Layer.opened n p), sink, some { unit }) := by
  rw [List.map_cons, descend, Layer.log_opened, if_pos h]

variable {unit : Nat} {units : List Nat} {n : Nat} {p : Option Position} {t : Tracer σ δ}

/-- A rejected event does nothing. -/
lemma InStep.raise_of_rejects (ht : InStep (unit :: units) n p t) (h : Handler σ δ ε)
    {e : Event} (hr : e.role.Rejects n) : t.raise h e = (t, .unmatched { unit }) := by
  rw [raise_eq, ht, descend_opened_of_rejects hr, ← ht]
  rfl

/-- The sink when an event reaches the handler: all layers have written their lines. -/
def sinkAfter (units : List Nat) (n : Nat) (t : Tracer σ δ) (e : Event) : σ :=
  Sink.writeAll t.sink (units.flatMap (e.parts n))

/-- An event that is not rejected moves all layers, writes all lines and is answered. -/
lemma InStep.raise_of_not_rejects (ht : InStep units n p t) (h : Handler σ δ ε)
    {e : Event} (hr : ¬ e.role.Rejects n) :
    t.raise h e =
      ({ layers := units.map (Layer.opened (e.role.next n) (e.published p)),
         sink := sinkAfter units n t e,
         inner := (h.receive (sinkAfter units n t e) t.inner e).1 },
        .replied (h.receive (sinkAfter units n t e) t.inner e).2) := by
  rw [raise_eq, ht, descend_opened hr]
  rfl

/-- Lockstep is kept by every event, the rejected ones included. -/
lemma InStep.raise (ht : InStep (unit :: units) n p t) (h : Handler σ δ ε) (e : Event) :
    InStep (unit :: units) (e.role.next n) (e.published p) (t.raise h e).1 := by
  by_cases hr : e.role.Rejects n
  · have hp : e.published p = p := by
      apply Event.published_of_ne_silent
      rw [hr.1]
      decide
    rw [ht.raise_of_rejects h hr, Role.next_of_rejects hr, hp]
    exact ht
  · rw [ht.raise_of_not_rejects h hr]
    rfl

/-! ## Runs -/

/-- Lockstep after a run: the levels are those that the events leave open, and the position is the
one that was published last. -/
lemma inStep_run (h : Handler σ δ ε) (unit : Nat) (units : List Nat) (sink : σ) (inner : δ)
    (es : List Event) :
    InStep (unit :: units) (Event.openLevels es) (Event.lastPosition es)
      ((fresh (unit :: units) sink inner).run h es).1 := by
  induction es using List.reverseRecOn with
  | nil => exact inStep_fresh (unit :: units) sink inner
  | append_singleton es e ih =>
    rw [run_concat, Event.openLevels_concat, Event.lastPosition_concat]
    exact ih.raise h e

/-- The steps of a run without its rejected events are its answered steps, and it ends in the same
state. -/
lemma InStep.run_accepted (ht : InStep (unit :: units) n p t) (h : Handler σ δ ε)
    (es : List Event) :
    t.history h (t.accepted h es) = (t.history h es).filter Step.isReplied ∧
      (t.run h (t.accepted h es)).1 = (t.run h es).1 := by
  induction es generalizing t n p with
  | nil => exact ⟨rfl, rfl⟩
  | cons e es ih =>
    obtain ⟨hhistory, hrun⟩ := ih (ht.raise h e)
    rw [accepted_cons, history, run_cons, List.filter_cons, Step.isReplied]
    by_cases hr : e.role.Rejects n
    · rw [ht.raise_of_rejects h hr] at hhistory hrun ⊢
      exact ⟨hhistory, hrun⟩
    · have hreply : (t.raise h e).2.isReplied = true := by rw [ht.raise_of_not_rejects h hr]; rfl
      rw [if_pos hreply, if_pos hreply, history, run_cons, hhistory, hrun]
      exact ⟨rfl, rfl⟩

/-- A run without its rejected events makes the same calls. -/
lemma InStep.calls_accepted (ht : InStep (unit :: units) n p t) (h : Handler σ δ ε)
    (es : List Event) : t.calls h (t.accepted h es) = t.calls h es := by
  have hcall : ∀ s : Step σ δ ε, (if s.isReplied = true then s.call? else none) = s.call? := by
    rintro ⟨e, r | c, after⟩ <;> rfl
  rw [calls_eq_filterMap_history, calls_eq_filterMap_history, (ht.run_accepted h es).1,
    List.filterMap_filter]
  simp only [hcall]

/-! ## Atomicity -/

/-- **A rejected event is atomic.**  After any run of a fresh stack of layers:

* all layers have the same open levels and the same position, the one that was published last;
* the next event is rejected exactly if it closes a level and none is open; then it changes
  neither a layer nor the sink nor the handler, and otherwise it is answered, so no layer fails
  behind one that has written;
* what the outermost layer accepts is answered.

A run without its rejected events has the same steps but for these, with the same outcomes and the
same state after each; it makes the same calls and ends in the same state. -/
theorem rejection_is_atomic (h : Handler σ δ ε) (unit : Nat) (units : List Nat) (sink : σ)
    (inner : δ) (es : List Event) :
    let start : Tracer σ δ := fresh (unit :: units) sink inner
    let t := (start.run h es).1
    let outermost := Layer.opened (Event.openLevels es) (Event.lastPosition es) unit
    t.layers =
        outermost :: units.map (Layer.opened (Event.openLevels es) (Event.lastPosition es)) ∧
      (∀ e, if e.role = .closes ∧ Event.openLevels es = 0 then t.raise h e = (t, .unmatched { unit })
        else (t.raise h e).2.isReplied = true) ∧
      (∀ e, (t.raise h e).2.isReplied = (outermost.log e).isOk) ∧
      start.history h (start.accepted h es) = (start.history h es).filter Step.isReplied ∧
      start.calls h (start.accepted h es) = start.calls h es ∧
      (start.run h (start.accepted h es)).1 = t := by
  intro start t outermost
  have hstart : InStep (unit :: units) 0 none start := inStep_fresh (unit :: units) sink inner
  have ht : InStep (unit :: units) (Event.openLevels es) (Event.lastPosition es) t :=
    inStep_run h unit units sink inner es
  obtain ⟨hhistory, hrun⟩ := hstart.run_accepted h es
  refine ⟨ht, fun e => ?_, fun e => ?_, hhistory, hstart.calls_accepted h es, hrun⟩
  · split
    · next hr => exact ht.raise_of_rejects h hr
    · next hr => rw [ht.raise_of_not_rejects h hr]; rfl
  · rw [Layer.log_opened]
    by_cases hr : e.role.Rejects (Event.openLevels es)
    · rw [ht.raise_of_rejects h hr, if_pos hr]
      rfl
    · rw [ht.raise_of_not_rejects h hr, if_neg hr]
      rfl

end Tracer

end WasmTrace
