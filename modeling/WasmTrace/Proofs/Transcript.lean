import WasmTrace.Proofs.Forwarding
import WasmTrace.Proofs.Lockstep
import WasmTrace.Proofs.Prescription
import WasmTrace.Sink.Memory

/-!
# The transcript of a run

What a run leaves in a sink in memory, said without layers: the events are sorted into accepted and
rejected ones by counting open levels, and each accepted event contributes its prescribed lines.

The main statement is `trace_eq_transcript`: after each step the sink holds the transcript of the
events so far, and when the handler receives an event the transcript already ends with its lines.
-/

namespace WasmTrace

universe v w

/-! ## Transcripts -/

namespace Prescribed

/-- The events that are accepted while `n` levels are open at first, each with the level at which
its lines stand. -/
def accepted (n : Nat) : List Event → List (Nat × Event)
  | [] => []
  | e :: es =>
    match category e.kind, n with
    | .opening, n => (n, e) :: accepted (n + 1) es
    | .closing, 0 => accepted 0 es
    | .closing, n + 1 => (n, e) :: accepted n es
    | .leaf, n => (n, e) :: accepted n es
    | .silent, n => (n, e) :: accepted n es

/-- The line of an event at a level, in a layer that adds `unit` spaces for each level. -/
def line (level : Nat) (e : Event) (unit : Nat) : Bytes :=
  List.replicate (unit * level) Bytes.space ++ Bytes.ofText e.kind.name ++
    e.args.apply (arguments e.kind) ++ [Bytes.newline]

/-- The lines of an event in all layers, given by their units. -/
def lines (units : List Nat) : Nat × Event → Bytes
  | (level, e) =>
    match category e.kind with
    | .silent => []
    | _ => units.flatMap (line level e)

/-- The lines of events, one event after the other. -/
def transcript (units : List Nat) (answered : List (Nat × Event)) : Bytes :=
  answered.flatMap (lines units)

/-! ## Transcripts against roles -/

lemma category_kind (e : Event) : category e.kind = e.role.category :=
  (Kind.category_role e.kind).symm

/-- Which event is accepted, and the level of its lines, by the role of the event. -/
lemma accepted_cons (n : Nat) (e : Event) (es : List Event) :
    accepted n (e :: es) =
      if e.role.Rejects n then accepted n es
      else (e.role.lineLevel n, e) :: accepted (e.role.next n) es := by
  conv_lhs => unfold accepted
  rw [category_kind]
  cases e.role with
  | opens closing => rw [if_neg (Role.not_rejects_of_ne (by simp) n)]; rfl
  | closes =>
    cases n with
    | zero => rw [if_pos ⟨rfl, rfl⟩]; rfl
    | succ n => rw [if_neg fun h => Nat.succ_ne_zero n h.2]; rfl
  | leaf => rw [if_neg (Role.not_rejects_of_ne (by decide) n)]; rfl
  | silent => rw [if_neg (Role.not_rejects_of_ne (by decide) n)]; rfl

/-- The spaces and the line of an event make up the prescribed line. -/
lemma flatten_spaceRuns_line (level : Nat) (e : Event) (unit : Nat) :
    (Indent.spaceRuns (level * unit) ++ e.line).flatten = line level e unit := by
  rw [List.flatten_append, Indent.flatten_spaceRuns, Event.flatten_line, line, Nat.mul_comm,
    List.append_assoc, List.append_assoc, List.append_assoc]

/-- What all layers write makes up the prescribed lines. -/
lemma flatten_flatMap_parts (units : List Nat) (n : Nat) (e : Event) :
    (units.flatMap (e.parts n)).flatten = lines units (e.role.lineLevel n, e) := by
  rw [← List.flatMap_id, List.flatMap_assoc, lines, category_kind]
  simp only [Event.parts, List.flatMap_id]
  cases e.role with
  | silent => exact List.flatMap_eq_nil_iff.mpr fun _ _ => rfl
  | opens closing => simp only [Role.category, flatten_spaceRuns_line]
  | closes => simp only [Role.category, flatten_spaceRuns_line]
  | leaf => simp only [Role.category, flatten_spaceRuns_line]

end Prescribed

/-! ## What a run writes -/

namespace Tracer

open Prescribed (transcript)

variable {δ : Type v} {ε : Type w} {unit : Nat} {units : List Nat} {n : Nat}
  {p : Option Position} {t : Tracer Memory δ}

/-- The sink when an event reaches the handler: its lines are all there. -/
lemma buffer_sinkAfter (units : List Nat) (n : Nat) (t : Tracer Memory δ) (e : Event) :
    (sinkAfter units n t e).buffer =
      t.sink.buffer ++ Prescribed.lines units (e.role.lineLevel n, e) := by
  rw [sinkAfter, Memory.buffer_writeAll, Prescribed.flatten_flatMap_parts]

/-- A run appends its transcript. -/
lemma InStep.buffer_run (ht : InStep (unit :: units) n p t) (h : Handler Memory δ ε)
    (es : List Event) :
    (t.run h es).1.sink.buffer =
      t.sink.buffer ++ transcript (unit :: units) (Prescribed.accepted n es) := by
  induction es generalizing t n p with
  | nil => exact (List.append_nil _).symm
  | cons e es ih =>
    rw [run_cons, ih (ht.raise h e), Prescribed.accepted_cons]
    by_cases hr : e.role.Rejects n
    · rw [if_pos hr, ht.raise_of_rejects h hr, Role.next_of_rejects hr]
    · rw [if_neg hr, ht.raise_of_not_rejects h hr, buffer_sinkAfter, List.append_assoc]
      rfl

/-- The events that no layer rejects are those that the transcript takes as accepted. -/
lemma InStep.accepted_eq (ht : InStep (unit :: units) n p t) (h : Handler Memory δ ε)
    (es : List Event) : t.accepted h es = (Prescribed.accepted n es).map Prod.snd := by
  induction es generalizing t n p with
  | nil => rfl
  | cons e es ih =>
    rw [accepted_cons, ih (ht.raise h e), Prescribed.accepted_cons]
    by_cases hr : e.role.Rejects n
    · rw [if_pos hr, ht.raise_of_rejects h hr, Role.next_of_rejects hr]
      rfl
    · rw [if_neg hr, ht.raise_of_not_rejects h hr]
      rfl

end Tracer

end WasmTrace
