import Mathlib.Data.List.Forall2
import WasmTrace.Proofs.LineStructure

/-!
# Well-nested runs

Events are nested well if each level that they open is closed by them, by an event of the kind that
belongs to the one that opened it, and they close no other level.

Such events do not fall below the levels that were open before them: `Event.Stays` says this event
by event, and `WellNested.stays` derives it from the nesting.  Whether events are nested well can be
checked in one pass with a stack, `Event.wellNested_iff_nestedFrom`.

The main statement is `Tracer.well_nested_lines`: from whatever state a well-nested run is raised,
its lines line up.
-/

namespace WasmTrace

universe u v w

/-! ## Levels during a run -/

namespace Event

/-- The levels that are open after events, if `n` were open before them. -/
def levelsAfter (n : Nat) (es : List Event) : Nat := es.foldl (fun n e => e.role.next n) n

lemma levelsAfter_cons (n : Nat) (e : Event) (es : List Event) :
    levelsAfter n (e :: es) = levelsAfter (e.role.next n) es := rfl

lemma levelsAfter_append (n : Nat) (es more : List Event) :
    levelsAfter n (es ++ more) = levelsAfter (levelsAfter n es) more := List.foldl_append

/-- Events none of which is rejected or has a line below the level `m`, if `n` levels are open
before them. -/
def Stays (m : Nat) : Nat → List Event → Prop
  | _, [] => True
  | n, e :: es => ¬ e.role.Rejects n ∧ m ≤ e.role.lineLevel n ∧ Stays m (e.role.next n) es

lemma stays_append {m n : Nat} {es more : List Event} :
    Stays m n (es ++ more) ↔ Stays m n es ∧ Stays m (levelsAfter n es) more := by
  induction es generalizing n with
  | nil => exact (and_iff_right trivial).symm
  | cons e es ih => rw [List.cons_append, Stays, Stays, ih, and_assoc, and_assoc, levelsAfter_cons]

end Event

/-- The roles of two events that belong together. -/
lemma Event.roles_of_closing? {b c : Event} (h : b.kind.closing? = some c.kind) :
    b.role = .opens c.kind ∧ c.role = .closes := Kind.role_of_closing? h

/-! ## Well-nested events -/

/-- Events that are nested well. -/
inductive WellNested : List Event → Prop where
  /-- No events. -/
  | nil : WellNested []
  /-- An event that moves no level, before others. -/
  | flat {e : Event} {es : List Event} (he : e.role = .leaf ∨ e.role = .silent)
    (hes : WellNested es) : WellNested (e :: es)
  /-- An event that opens a level and one of the kind that closes it, with others between them,
  before others. -/
  | enclosed {b c : Event} {body rest : List Event} (hclosing : b.kind.closing? = some c.kind)
    (hbody : WellNested body) (hrest : WellNested rest) : WellNested (b :: (body ++ c :: rest))

/-- A list that is cut at two of its members is cut twice at the same one, or the second member
stands behind the first one, or in front of it. -/
lemma append_cons_eq_append_cons {α : Type u} {xs ys us vs : List α} {y v : α}
    (h : xs ++ y :: ys = us ++ v :: vs) :
    (us = xs ∧ v = y) ∨ (∃ between, us = xs ++ y :: between ∧ ys = between ++ v :: vs) ∨
      ∃ between, xs = us ++ v :: between := by
  rcases List.append_eq_append_iff.mp h with ⟨between, rfl, hback⟩ | ⟨between, rfl, hback⟩
  · cases between with
    | nil => exact .inl ⟨List.append_nil xs, (List.cons_eq_cons.mp hback).1.symm⟩
    | cons z between =>
      obtain ⟨rfl, hys⟩ := List.cons_eq_cons.mp hback
      exact .inr (.inl ⟨between, rfl, hys⟩)
  · cases between with
    | nil => exact .inl ⟨(List.append_nil us).symm, (List.cons_eq_cons.mp hback).1⟩
    | cons z between =>
      obtain ⟨rfl, -⟩ := List.cons_eq_cons.mp hback
      exact .inr (.inr ⟨between, rfl⟩)

namespace WellNested

open Event (levelsAfter Stays)

variable {es body : List Event} {b c : Event} {m n : Nat}

/-- Well-nested events may be put in front of others. -/
lemma append {more : List Event} (h : WellNested es) (hmore : WellNested more) :
    WellNested (es ++ more) := by
  induction h with
  | nil => exact hmore
  | flat he _ ih => exact .flat he ih
  | enclosed hclosing hbody _ _ ih =>
    rw [List.cons_append, List.append_assoc, List.cons_append]
    exact .enclosed hclosing hbody ih

/-- A well-nested run leaves as many levels open as there were. -/
lemma levelsAfter_eq (h : WellNested es) (n : Nat) : levelsAfter n es = n := by
  induction h generalizing n with
  | nil => rfl
  | @flat e es he hes ih =>
    have hnext : e.role.next n = n := by rcases he with he | he <;> rw [he] <;> rfl
    rw [Event.levelsAfter_cons, hnext, ih]
  | @enclosed b c body rest hclosing hbody hrest ihbody ihrest =>
    obtain ⟨hb, hc⟩ := Event.roles_of_closing? hclosing
    have hopen : b.role.next n = n + 1 := by rw [hb]; rfl
    have hclose : c.role.next (n + 1) = n := by rw [hc]; rfl
    rw [Event.levelsAfter_cons, hopen, Event.levelsAfter_append, ihbody, Event.levelsAfter_cons,
      hclose, ihrest]

/-- A well-nested run stays at or above the levels that were open before it. -/
lemma stays (h : WellNested es) (hmn : m ≤ n) : Stays m n es := by
  induction h generalizing n with
  | nil => trivial
  | @flat e es he hes ih =>
    rcases he with he | he
    all_goals
      rw [Stays, he]
      exact ⟨Role.not_rejects_of_ne (by decide) n, hmn, ih hmn⟩
  | @enclosed b c body rest hclosing hbody hrest ihbody ihrest =>
    obtain ⟨hb, hc⟩ := Event.roles_of_closing? hclosing
    rw [Stays, Event.stays_append, hb]
    refine ⟨Role.not_rejects_of_ne (by simp) n, hmn, ihbody (Nat.le_succ_of_le hmn), ?_⟩
    -- the level of `b` is open again when `c` closes it
    rw [hbody.levelsAfter_eq, Stays, hc]
    exact ⟨fun hr => Nat.succ_ne_zero n hr.2, hmn, ihrest hmn⟩

/-- Each event that closes a level closes one that was opened in the run. -/
lemma exists_opening (h : WellNested es) {front back : List Event}
    (hes : es = front ++ c :: back) (hc : c.role = .closes) :
    ∃ pre b body, front = pre ++ b :: body ∧ b.kind.closing? = some c.kind ∧ WellNested body := by
  induction h generalizing front back with
  | nil => exact absurd hes (by simp)
  | @flat e es he hes' ih =>
    cases front with
    | nil =>
      obtain ⟨rfl, -⟩ := List.cons_eq_cons.mp hes
      rcases he with he | he <;> exact absurd (hc.symm.trans he) (by decide)
    | cons e' front =>
      obtain ⟨rfl, htail⟩ := List.cons_eq_cons.mp hes
      obtain ⟨pre, b, body, rfl, hmatch⟩ := ih htail
      exact ⟨e :: pre, b, body, rfl, hmatch⟩
  | @enclosed b' c' body' rest hclosing hbody hrest ihbody ihrest =>
    cases front with
    | nil =>
      obtain ⟨rfl, -⟩ := List.cons_eq_cons.mp hes
      exact absurd (hc.symm.trans (Event.roles_of_closing? hclosing).1) (by simp)
    | cons e' front =>
      obtain ⟨rfl, htail⟩ := List.cons_eq_cons.mp hes
      rcases append_cons_eq_append_cons htail with
        ⟨rfl, rfl⟩ | ⟨between, rfl, hrest'⟩ | ⟨between, rfl⟩
      · exact ⟨[], b', front, rfl, hclosing, hbody⟩
      · obtain ⟨pre, b, body, rfl, hmatch⟩ := ihrest hrest'
        exact ⟨b' :: (body' ++ c' :: pre), b, body, by simp, hmatch⟩
      · obtain ⟨pre, b, body, rfl, hmatch⟩ := ihbody rfl
        exact ⟨b' :: pre, b, body, rfl, hmatch⟩

/-- What an event opens is not closed inside a well-nested run that begins before the event. -/
lemma false_of_append (h : WellNested (es ++ b :: body)) (hclosing : b.kind.closing? = some c.kind)
    (hbody : WellNested body) : False := by
  have hb := (Event.roles_of_closing? hclosing).1
  have hend := h.levelsAfter_eq 1
  rw [Event.levelsAfter_append, Event.levelsAfter_cons, hbody.levelsAfter_eq, hb] at hend
  have hstays := h.stays (Nat.le_refl 1)
  rw [Event.stays_append, Stays, hb] at hstays
  have hle : 1 ≤ levelsAfter 1 es := hstays.2.2.1
  have hone : levelsAfter 1 es + 1 = 1 := hend
  omega

/-- What an event closes was opened by one event only. -/
lemma opening_unique {pre pre' body' : List Event} {b' c' : Event}
    (heq : pre ++ b :: body = pre' ++ b' :: body') (hclosing : b.kind.closing? = some c.kind)
    (hclosing' : b'.kind.closing? = some c'.kind) (hbody : WellNested body)
    (hbody' : WellNested body') : pre' = pre := by
  rcases append_cons_eq_append_cons heq with ⟨hpre, -⟩ | ⟨between, -, rfl⟩ | ⟨between, rfl⟩
  · exact hpre
  · exact (hbody.false_of_append hclosing' hbody').elim
  · rw [List.append_assoc, List.append_cancel_left_eq] at heq
    obtain ⟨-, rfl⟩ := List.cons_eq_cons.mp heq
    exact (hbody'.false_of_append hclosing hbody).elim

end WellNested

/-! ## Checking the nesting -/

namespace Event

/-- Checks the nesting with a stack: the kinds that are to close the open levels, the innermost one
first. -/
def nestedFrom : List Kind → List Event → Bool
  | stack, [] => stack.isEmpty
  | stack, e :: es =>
    match e.role, stack with
    | .opens closing, stack => nestedFrom (closing :: stack) es
    | .closes, [] => false
    | .closes, closing :: stack => e.kind == closing && nestedFrom stack es
    | .leaf, stack => nestedFrom stack es
    | .silent, stack => nestedFrom stack es

/-- Events that close the levels of a stack one after the other, with well-nested events before
each and behind the last. -/
def Unwinds : List Kind → List Event → Prop
  | [], es => WellNested es
  | closing :: stack, es => ∃ body e rest,
    es = body ++ e :: rest ∧ e.kind = closing ∧ WellNested body ∧ Unwinds stack rest

/-- Well-nested events in front change nothing for the stack. -/
lemma Unwinds.prepend {stack : List Kind} {front es : List Event} (h : Unwinds stack es)
    (hfront : WellNested front) : Unwinds stack (front ++ es) := by
  cases stack with
  | nil => exact hfront.append h
  | cons closing stack =>
    obtain ⟨body, e, rest, rfl, he, hbody, hrest⟩ := h
    exact ⟨front ++ body, e, rest, (List.append_assoc ..).symm, he, hfront.append hbody, hrest⟩

/-- Events that pass the check close the levels of the stack. -/
lemma unwinds_of_nestedFrom {stack : List Kind} {es : List Event}
    (h : nestedFrom stack es = true) : Unwinds stack es := by
  induction es generalizing stack with
  | nil =>
    obtain rfl : stack = [] := List.isEmpty_iff.mp h
    exact .nil
  | cons e es ih =>
    unfold nestedFrom at h
    split at h
    · next closing stack hrole =>
      -- `e` and the event that closes its level enclose what is between them
      obtain ⟨body, c, rest, rfl, hc, hbody, hrest⟩ := ih h
      have hclosing : e.kind.closing? = some c.kind := by
        rw [Kind.closing?, show e.kind.role = _ from hrole, hc]
      have henclosed : WellNested (e :: (body ++ [c])) := .enclosed hclosing hbody .nil
      have hprepend := hrest.prepend henclosed
      rwa [List.cons_append, List.append_assoc, List.singleton_append] at hprepend
    · cases h
    · next closing stack hrole =>
      rw [Bool.and_eq_true, beq_iff_eq] at h
      exact ⟨[], e, es, rfl, h.1, .nil, ih h.2⟩
    · next hrole => exact (ih h).prepend (.flat (.inl hrole) .nil)
    · next hrole => exact (ih h).prepend (.flat (.inr hrole) .nil)

lemma nestedFrom_flat {e : Event} (h : e.role = .leaf ∨ e.role = .silent) (stack : List Kind)
    (es : List Event) : nestedFrom stack (e :: es) = nestedFrom stack es := by
  conv_lhs => unfold nestedFrom
  rcases h with h | h <;> rw [h]

lemma nestedFrom_opens {e : Event} {closing : Kind} (h : e.role = .opens closing)
    (stack : List Kind) (es : List Event) :
    nestedFrom stack (e :: es) = nestedFrom (closing :: stack) es := by
  conv_lhs => unfold nestedFrom
  rw [h]

lemma nestedFrom_closes {e : Event} (h : e.role = .closes) (stack : List Kind) (es : List Event) :
    nestedFrom (e.kind :: stack) (e :: es) = nestedFrom stack es := by
  conv_lhs => unfold nestedFrom
  rw [h]
  dsimp only
  rw [beq_self_eq_true, Bool.true_and]

/-- The check passes over well-nested events. -/
lemma nestedFrom_append {es : List Event} (h : WellNested es) (stack : List Kind)
    (rest : List Event) : nestedFrom stack (es ++ rest) = nestedFrom stack rest := by
  induction h generalizing stack rest with
  | nil => rfl
  | flat he _ ih => rw [List.cons_append, nestedFrom_flat he, ih]
  | enclosed hclosing _ _ ihbody ihback =>
    obtain ⟨hb, hc⟩ := roles_of_closing? hclosing
    rw [List.cons_append, List.append_assoc, nestedFrom_opens hb, ihbody, List.cons_append,
      nestedFrom_closes hc, ihback]

/-- **Nesting can be checked in one pass.** -/
theorem wellNested_iff_nestedFrom (es : List Event) : WellNested es ↔ nestedFrom [] es = true := by
  refine ⟨fun h => ?_, unwinds_of_nestedFrom⟩
  have hpass := nestedFrom_append h [] []
  rw [List.append_nil] at hpass
  exact hpass

instance instDecidableWellNested (es : List Event) : Decidable (WellNested es) :=
  decidable_of_iff _ (wellNested_iff_nestedFrom es).symm

/-- A section is not closed by the last event of another one, though the levels would fit. -/
example : ¬ WellNested [⟨.beginTypeSection, .cons 0 .nil⟩, ⟨.endCodeSection, .nil⟩] := by decide

end Event

/-! ## What layers write -/

/-- What a layer writes when it sees an event: nothing if it fails. -/
def Layer.written (l : Layer) (e : Event) : List Bytes :=
  match l.log e with
  | .ok (_, parts) => parts
  | .error _ => []

lemma Layer.written_opened {e : Event} {n : Nat} (h : ¬ e.role.Rejects n) (p : Option Position)
    (unit : Nat) : (opened n p unit).written e = e.parts n unit := by
  rw [written, log_opened, if_neg h]

/-- The line of an event is indented by the unit for each level. -/
lemma Event.indentation_parts {e : Event} (h : e.role ≠ .silent) (n unit : Nat) :
    Line.indentation (e.parts n unit).flatten = unit * e.role.lineLevel n := by
  rw [parts_of_ne_silent h, Prescribed.flatten_spaceRuns_line, Prescribed.line, Line.indentation,
    List.append_assoc, List.append_assoc, (Line.span_spaces _ _ _).1, List.length_replicate]

namespace Tracer

open Bytes (newline)
open Event (levelsAfter Stays)

variable {σ : Type u} {δ : Type v} {ε : Type w}

/-- The indentation of the line of each layer for an event. -/
def indentations (t : Tracer σ δ) (e : Event) : List Nat :=
  t.layers.map fun l => Line.indentation (l.written e).flatten

variable {unit m n : Nat} {units : List Nat} {p : Option Position} {t : Tracer σ δ}

/-- Layers in step indent the line of an event by as many levels. -/
lemma InStep.indentations_eq (ht : InStep units n p t) {e : Event} (hr : ¬ e.role.Rejects n)
    (he : e.role ≠ .silent) : t.indentations e = units.map (· * e.role.lineLevel n) := by
  rw [indentations, ht, List.map_map]
  refine List.map_congr_left fun unit _ => ?_
  rw [Function.comp_apply, Layer.written_opened hr, Event.indentation_parts he]

variable [Sink σ]

/-- What all layers write in a run, from the outermost layer to the innermost for each event. -/
def written (t : Tracer σ δ) (h : Handler σ δ ε) : List Event → List Bytes
  | [] => []
  | e :: es => t.layers.flatMap (·.written e) ++ written (t.raise h e).1 h es

/-- Lockstep is kept by a run. -/
lemma InStep.run (ht : InStep (unit :: units) n p t) (h : Handler σ δ ε) (es : List Event) :
    ∃ p', InStep (unit :: units) (levelsAfter n es) p' (t.run h es).1 := by
  induction es generalizing t n p with
  | nil => exact ⟨p, ht⟩
  | cons e es ih =>
    rw [run_cons]
    exact ih (ht.raise h e)

/-- A run that stays above a level is answered throughout, and the sink receives what the layers
write. -/
lemma InStep.run_of_stays (ht : InStep (unit :: units) n p t) (h : Handler σ δ ε)
    {es : List Event} (hes : Stays m n es) :
    (t.run h es).2.all Outcome.isReplied = true ∧
      (t.run h es).1.sink = Sink.writeAll t.sink (t.written h es) := by
  induction es generalizing t n p with
  | nil => exact ⟨rfl, rfl⟩
  | cons e es ih =>
    obtain ⟨hr, -, hrest⟩ := hes
    obtain ⟨hreplied, hsink⟩ := ih (ht.raise h e) hrest
    have hwritten : t.layers.flatMap (·.written e) = (unit :: units).flatMap (e.parts n) := by
      rw [ht, List.flatMap_map]
      exact List.flatMap_congr fun unit _ => Layer.written_opened hr p unit
    rw [run_cons, written, Sink.writeAll_append, hwritten, hsink, List.all_cons, hreplied,
      ht.raise_of_not_rejects h hr]
    exact ⟨rfl, rfl⟩

/-- The lines of a first and a last event that belong together, and those between them. -/
lemma InStep.indentations_enclosed (ht : InStep (unit :: units) n p t) (h : Handler σ δ ε)
    (pre : List Event) {b c : Event} {body : List Event}
    (hclosing : b.kind.closing? = some c.kind) (hbody : WellNested body) :
    let outer := (t.run h pre).1.indentations b
    (t.run h (pre ++ b :: body)).1.indentations c = outer ∧
      ∀ front e back, body = front ++ e :: back → e.role ≠ .silent →
        List.Forall₂ (· ≤ ·) (List.zipWith (· + ·) outer (unit :: units))
          ((t.run h (pre ++ b :: front)).1.indentations e) := by
  intro outer
  obtain ⟨hb, hc⟩ := Event.roles_of_closing? hclosing
  -- the levels that are open when `b` is raised
  have hlevels : ∀ es, levelsAfter n (pre ++ b :: es) = levelsAfter (levelsAfter n pre + 1) es := by
    intro es
    rw [Event.levelsAfter_append, Event.levelsAfter_cons, hb]
    rfl
  have houter : outer = (unit :: units).map (· * levelsAfter n pre) := by
    obtain ⟨p', hpre⟩ := ht.run h pre
    have hr : ¬ b.role.Rejects (levelsAfter n pre) := by
      rw [hb]
      exact Role.not_rejects_of_ne (by simp) _
    rw [show outer = _ from hpre.indentations_eq hr (by rw [hb]; simp), hb]
    rfl
  refine ⟨?_, fun front e back hback he => ?_⟩
  · obtain ⟨p', hin⟩ := ht.run h (pre ++ b :: body)
    rw [hlevels, hbody.levelsAfter_eq] at hin
    have hr : ¬ c.role.Rejects (levelsAfter n pre + 1) := fun hr => Nat.succ_ne_zero _ hr.2
    rw [hin.indentations_eq hr (by rw [hc]; decide), hc, houter]
    rfl
  · obtain ⟨p', hin⟩ := ht.run h (pre ++ b :: front)
    rw [hlevels] at hin
    have hstays := hbody.stays (Nat.le_refl (levelsAfter n pre + 1))
    rw [hback, Event.stays_append] at hstays
    obtain ⟨hr, hle, -⟩ := hstays.2
    rw [hin.indentations_eq hr he, houter, List.zipWith_map_left, List.zipWith_self,
      List.forall₂_map_left_iff, List.forall₂_map_right_iff, List.forall₂_same]
    intro unit _
    rw [← Nat.mul_succ]
    exact Nat.mul_le_mul_left unit hle

/-- **Well-nested runs line up.**  Take a fresh stack of layers with any units over any sink, in
front of any handler, let it see any events, and raise well-nested events from the state that it
has reached.  Then:

* no event is rejected, all layers end with the open levels that they had, and the sink receives
  what the layers write;
* wherever two events belong together, the line of the last event is indented in each layer like
  the line of the first one, and each line between them by at least the unit of the layer more;
* each event that closes a level belongs together with exactly one before it.

A kind that opens a level is closed by a kind, which no other kind is closed by: the one with the
same name but for its first word. -/
theorem well_nested_lines (h : Handler σ δ ε) (unit : Nat) (units : List Nat) (sink : σ) (inner : δ)
    (before : List Event) {es : List Event} (hes : WellNested es) :
    let t : Tracer σ δ := ((fresh (unit :: units) sink inner).run h before).1
    ((t.run h es).2.all Outcome.isReplied = true ∧
      (t.run h es).1.layers.map (·.indent) = t.layers.map (·.indent) ∧
      (t.run h es).1.sink = Sink.writeAll t.sink (t.written h es)) ∧
    (∀ pre b body c post, es = pre ++ b :: (body ++ c :: post) →
      b.kind.closing? = some c.kind → WellNested body →
        let outer := (t.run h pre).1.indentations b
        (t.run h (pre ++ b :: body)).1.indentations c = outer ∧
          ∀ front e back, body = front ++ e :: back → e.role ≠ .silent →
            List.Forall₂ (· ≤ ·) (List.zipWith (· + ·) outer (unit :: units))
              ((t.run h (pre ++ b :: front)).1.indentations e)) ∧
    (∀ front c back, es = front ++ c :: back → c.role = .closes →
      ∃ pre b body,
        (front = pre ++ b :: body ∧ b.kind.closing? = some c.kind ∧ WellNested body) ∧
          ∀ pre' b' body', front = pre' ++ b' :: body' → b'.kind.closing? = some c.kind →
            WellNested body' → pre' = pre) ∧
    (∀ k, (∃ l, k.closing? = some l) ↔ Prescribed.category k = .opening) ∧
    (∀ k k' l, Kind.closing? k = some l → k'.closing? = some l → k = k') ∧
    ∀ k, Kind.closing? k = k.closingByName? := by
  intro t
  have ht : InStep (unit :: units) (Event.openLevels before) (Event.lastPosition before) t :=
    inStep_run h unit units sink inner before
  obtain ⟨hreplied, hsink⟩ := ht.run_of_stays h (hes.stays (Nat.le_refl (Event.openLevels before)))
  refine ⟨⟨hreplied, ?_, hsink⟩, ?_, fun front c back hback hc => ?_, Kind.exists_closing?_iff,
    fun k k' l => Kind.eq_of_closing?_eq, Kind.closing?_eq_closingByName?⟩
  · obtain ⟨p, hend⟩ := ht.run h es
    rw [hes.levelsAfter_eq] at hend
    rw [hend, ht, List.map_map, List.map_map]
    rfl
  · intro pre b body c post _ hclosing hbody
    exact ht.indentations_enclosed h pre hclosing hbody
  · obtain ⟨pre, b, body, hmatch⟩ := hes.exists_opening hback hc
    refine ⟨pre, b, body, hmatch, fun pre' b' body' hfront hclosing' hbody' => ?_⟩
    obtain ⟨rfl, hclosing, hbody⟩ := hmatch
    exact WellNested.opening_unique hfront hclosing hclosing' hbody hbody'

/-- A custom section in a module, behind layers of two units: it leaves one level open in each layer,
and its last line stands like its first one. -/
theorem custom_section_lines :
    let first : Event := ⟨.beginCustomSection, .cons 9 (.cons [newline] .nil)⟩
    let body : List Event := [⟨.onOpcodeBare, .nil⟩, ⟨.beginFunctionBody, .cons 0 (.cons 4 .nil)⟩]
    let last : Event := ⟨.endCustomSection, .nil⟩
    let h : Handler Memory Unit Empty := .accepting
    let t := ((fresh [2, 3] ({} : Memory) ()).run h [⟨.beginModule, .cons 1 .nil⟩]).1
    WellNested (first :: (body ++ [last])) ∧
      (t.run h (first :: (body ++ [last]))).1.layers.map (·.indent) = [⟨1, 2⟩, ⟨1, 3⟩] ∧
      (t.run h (first :: body)).1.indentations last = t.indentations first := by
  intro first body last h t
  have hbody : WellNested body := .flat (.inr rfl) (.flat (.inl rfl) .nil)
  have hes : WellNested (first :: (body ++ [last])) := .enclosed rfl hbody .nil
  obtain ⟨⟨-, hlevels, -⟩, hlines, -⟩ :=
    well_nested_lines h 2 [3] ({} : Memory) () [⟨.beginModule, .cons 1 .nil⟩] hes
  exact ⟨hes, hlevels, (hlines [] first body last [] rfl rfl hbody).1⟩

end Tracer

end WasmTrace
