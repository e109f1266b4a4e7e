import Mathlib.Algebra.Ring.Int.Defs
import Mathlib.Data.Finset.Lattice.Fold
import Mathlib.Order.Basic
import WasmTrace.Proofs.Lockstep
import WasmTrace.Sink.Memory

/-!
# Nesting

The balance of events is the number of those that open a level less the number of those that close
one.  While a run is well nested its balance is the number of open levels.  An event that would
close a level too many is rejected, so in general the open levels are the balance lifted by the
greatest deficit that any beginning of the run has reached: a walk reflected at zero.

The main statement is `levels_closed_form`.
-/

namespace WasmTrace

universe u v w

namespace Role

/-- Whether an event of a role opens a level. -/
def isOpening : Role → Bool
  | .opens _ => true
  | _ => false

/-- Whether an event of a role closes a level. -/
def isClosing : Role → Bool
  | .closes => true
  | _ => false

/-- What an event of a role adds to the balance. -/
def weight : Role → ℤ
  | .opens _ => 1
  | .closes => -1
  | .leaf => 0
  | .silent => 0

lemma weight_eq (r : Role) :
    r.weight = (if r.isOpening then 1 else 0) - (if r.isClosing then 1 else 0) := by
  cases r <;> rfl

end Role

namespace Kind

/-- The kinds that begin or end something, by their names, but whose lines enclose nothing. -/
def flat : List Kind :=
  [.beginSection, .beginGlobal, .beginGlobalInitExpr, .endGlobalInitExpr, .endGlobal,
    .beginFunctionBody, .endFunctionBody, .beginElemSegment, .beginElemSegmentInitExpr,
    .endElemSegmentInitExpr, .endElemSegment, .beginDataSegment, .beginDataSegmentInitExpr,
    .endDataSegmentInitExpr, .endDataSegment]

end Kind

namespace Event

/-- The number of events that open a level. -/
def opened (es : List Event) : Nat := es.countP fun e => e.role.isOpening

/-- The number of events that close a level. -/
def closed (es : List Event) : Nat := es.countP fun e => e.role.isClosing

/-- The events that open a level less those that close one. -/
def balance (es : List Event) : ℤ := opened es - closed es

/-- The greatest number of levels by which a beginning of the events closes more than it opens. -/
def deficit (es : List Event) : ℤ :=
  max 0 ((Finset.range (es.length + 1)).sup' Finset.nonempty_range_add_one
    fun k => -balance (es.take k))

/-! ## One more event -/

lemma balance_concat (es : List Event) (e : Event) :
    balance (es ++ [e]) = balance es + e.role.weight := by
  rw [balance, opened, closed, List.countP_append, List.countP_append, List.countP_singleton,
    List.countP_singleton, Role.weight_eq, balance, opened, closed]
  push_cast [Nat.cast_ite]
  omega

/-- A number bounds the deficit if it bounds the deficit of each beginning. -/
lemma deficit_le_iff (es : List Event) (m : ℤ) :
    deficit es ≤ m ↔ 0 ≤ m ∧ ∀ k ≤ es.length, -balance (es.take k) ≤ m := by
  rw [deficit, max_le_iff, Finset.sup'_le_iff]
  refine and_congr_right fun _ => forall_congr' fun k => ?_
  rw [Finset.mem_range, Nat.lt_succ_iff]

/-- The beginnings of events with one more at the end are those without it and the whole. -/
lemma forall_take_concat (es : List Event) (e : Event) (P : List Event → Prop) :
    (∀ k ≤ (es ++ [e]).length, P ((es ++ [e]).take k)) ↔
      (∀ k ≤ es.length, P (es.take k)) ∧ P (es ++ [e]) := by
  constructor
  · intro h
    refine ⟨fun k hk => ?_, ?_⟩
    · have hshort := h k (by rw [List.length_append]; omega)
      rwa [List.take_append_of_le_length hk] at hshort
    · have hwhole := h (es ++ [e]).length le_rfl
      rwa [List.take_length] at hwhole
  · rintro ⟨h, hwhole⟩ k hk
    rcases Nat.lt_or_ge es.length k with hlong | hshort
    · rwa [List.take_of_length_le (by rw [List.length_append]; exact hlong)]
    · rw [List.take_append_of_le_length hshort]
      exact h k hshort

lemma deficit_concat (es : List Event) (e : Event) :
    deficit (es ++ [e]) = max (deficit es) (-balance (es ++ [e])) := by
  apply eq_of_forall_ge_iff
  intro m
  rw [max_le_iff, deficit_le_iff, deficit_le_iff,
    forall_take_concat es e fun beginning => -balance beginning ≤ m, and_assoc]

/-! ## The reflected walk -/

/-- The open levels are the balance lifted by the deficit. -/
theorem openLevels_eq (es : List Event) : (openLevels es : ℤ) = balance es + deficit es := by
  induction es using List.reverseRecOn with
  | nil => rfl
  | append_singleton es e ih =>
    rw [openLevels_concat, deficit_concat, balance_concat]
    -- the open levels are a natural number, so the deficit is at least the negated balance
    cases e.role with
    | opens closing => simp only [Role.next, Role.weight]; omega
    | closes => simp only [Role.next, Role.weight]; omega
    | leaf => simp only [Role.next, Role.weight]; omega
    | silent => simp only [Role.next, Role.weight]; omega

/-- The deficit grows by one with each event that is rejected. -/
lemma deficit_concat_eq (es : List Event) (e : Event) :
    deficit (es ++ [e]) = deficit es + if e.role.Rejects (openLevels es) then 1 else 0 := by
  have hlevels := openLevels_eq es
  rw [deficit_concat, balance_concat]
  by_cases hr : e.role.Rejects (openLevels es)
  · rw [if_pos hr, hr.1]
    have hzero := hr.2
    simp only [Role.weight]
    omega
  · rw [if_neg hr]
    cases hrole : e.role with
    | opens closing => simp only [Role.weight]; omega
    | closes =>
      have hpos : openLevels es ≠ 0 := fun hzero => hr ⟨hrole, hzero⟩
      simp only [Role.weight]
      omega
    | leaf => simp only [Role.weight]; omega
    | silent => simp only [Role.weight]; omega

/-- An event is rejected exactly if it closes a level and takes the balance to a new low below
zero. -/
lemma rejects_iff (es : List Event) (e : Event) :
    e.role.Rejects (openLevels es) ↔
      e.role = .closes ∧ balance (es ++ [e]) < 0 ∧
        ∀ k ≤ es.length, balance (es ++ [e]) < balance (es.take k) := by
  refine and_congr_right fun hrole => ?_
  have hlevels := openLevels_eq es
  have hlast : balance (es ++ [e]) = balance es - 1 := by
    rw [balance_concat, hrole]
    rfl
  rw [hlast]
  constructor
  · intro hzero
    have hdeficit : deficit es ≤ -balance es := by omega
    obtain ⟨hneg, hall⟩ := (deficit_le_iff es _).mp hdeficit
    exact ⟨by omega, fun k hk => by have := hall k hk; omega⟩
  · rintro ⟨hneg, hall⟩
    have hdeficit : deficit es ≤ -balance es :=
      (deficit_le_iff es _).mpr ⟨by omega, fun k hk => by have := hall k hk; omega⟩
    omega

/-- There is no deficit exactly if no beginning closes more levels than it opens. -/
lemma deficit_eq_zero_iff (es : List Event) :
    deficit es = 0 ↔ ∀ k ≤ es.length, closed (es.take k) ≤ opened (es.take k) := by
  have hpos : 0 ≤ deficit es := le_max_left _ _
  have hle : deficit es = 0 ↔ deficit es ≤ 0 := by omega
  rw [hle, deficit_le_iff]
  simp only [le_refl, true_and, balance]
  refine forall_congr' fun k => imp_congr_right fun _ => ?_
  omega

end Event

namespace Tracer

variable {σ : Type u} {δ : Type v} {ε : Type w} [Sink σ]

/-- Whether the next event is rejected after a run. -/
lemma raise_isReplied_after_run (h : Handler σ δ ε) (unit : Nat) (units : List Nat) (sink : σ)
    (inner : δ) (es : List Event) (e : Event) :
    (((fresh (unit :: units) sink inner).run h es).1.raise h e).2.isReplied =
      !decide (e.role.Rejects (Event.openLevels es)) := by
  have ht := inStep_run h unit units sink inner es
  by_cases hr : e.role.Rejects (Event.openLevels es)
  · rw [ht.raise_of_rejects h hr, decide_eq_true hr]
    rfl
  · rw [ht.raise_of_not_rejects h hr, decide_eq_false hr]
    rfl

/-- As many events are rejected as the deficit says. -/
lemma countP_rejected_run (h : Handler σ δ ε) (unit : Nat) (units : List Nat) (sink : σ)
    (inner : δ) (es : List Event) :
    (((fresh (unit :: units) sink inner).run h es).2.countP fun o => !o.isReplied : ℤ) =
      Event.deficit es := by
  induction es using List.reverseRecOn with
  | nil => rfl
  | append_singleton es e ih =>
    rw [run_concat, List.countP_append, List.countP_singleton, raise_isReplied_after_run,
      Bool.not_not, Event.deficit_concat_eq, ← ih]
    push_cast [Nat.cast_ite, decide_eq_true_eq]
    rfl

/-- The outcome of an event in the middle of a run is that of raising it after what comes before. -/
lemma getElem?_run (h : Handler σ δ ε) (t : Tracer σ δ) (before : List Event) (e : Event)
    (after : List Event) :
    (t.run h (before ++ e :: after)).2[before.length]? =
      some ((t.run h before).1.raise h e).2 := by
  rw [run_append, List.getElem?_append_right (length_run h t before).le, length_run, Nat.sub_self,
    run_cons]
  rfl

/-- **Levels and rejections in closed form.**  Take a fresh stack of layers with any units, zero
included, and let the balance of events be the number of those that open a level less the number
of those that close one.  After a run:

* as many events were rejected as the greatest deficit of a beginning of the run, zero at least;
* in every layer, the open levels are the balance and that number, and the depth is the unit times
  the open levels;
* an event was rejected exactly if it closes a level and the balance after it is negative and below
  the balance of every earlier beginning;
* no event was rejected exactly if every beginning opens as many levels as it closes;
* an event without a part in the nesting moves neither levels nor depth.

Kinds that begin or end something without enclosing its lines have no part in the nesting. -/
theorem levels_closed_form (h : Handler σ δ ε) (unit : Nat) (units : List Nat) (sink : σ)
    (inner : δ) (es : List Event) :
    let start : Tracer σ δ := fresh (unit :: units) sink inner
    let t := (start.run h es).1
    let outcomes := (start.run h es).2
    let rejected := outcomes.countP fun o => !o.isReplied
    (rejected : ℤ) = Event.deficit es ∧
      (t.layers.map fun l => (l.indent.levels : ℤ)) =
        (unit :: units).map (fun _ => Event.balance es + rejected) ∧
      (t.depth : ℤ) = unit * (Event.balance es + rejected) ∧
      (∀ before e after,
        (start.run h (before ++ e :: after)).2[before.length]? = some (.unmatched { unit }) ↔
          e.role = .closes ∧ Event.balance (before ++ [e]) < 0 ∧
            ∀ k ≤ before.length, Event.balance (before ++ [e]) < Event.balance (before.take k)) ∧
      (outcomes.all Outcome.isReplied = true ↔
        ∀ k ≤ es.length, Event.closed (es.take k) ≤ Event.opened (es.take k)) ∧
      (∀ e, e.role = .leaf ∨ e.role = .silent →
        (t.raise h e).1.depth = t.depth ∧
          (t.raise h e).1.layers.map (·.indent) = t.layers.map (·.indent)) ∧
      ∀ k ∈ Kind.flat, k.role = .leaf ∨ k.role = .silent := by
  intro start t outcomes rejected
  have ht : InStep (unit :: units) (Event.openLevels es) (Event.lastPosition es) t :=
    inStep_run h unit units sink inner es
  have hrejected : (rejected : ℤ) = Event.deficit es :=
    countP_rejected_run h unit units sink inner es
  have hlevels : (Event.openLevels es : ℤ) = Event.balance es + rejected := by
    rw [hrejected]
    exact Event.openLevels_eq es
  refine ⟨hrejected, ?_, ?_, fun before e after => ?_, ?_, fun e he => ?_, by decide⟩
  · rw [ht, List.map_map, ← hlevels]
    rfl
  · rw [ht.depth, ← hlevels, mul_comm]
    push_cast
    rfl
  · rw [getElem?_run, Option.some.injEq, ← Event.rejects_iff]
    have hbefore := inStep_run h unit units sink inner before
    by_cases hr : e.role.Rejects (Event.openLevels before)
    · exact iff_of_true (congrArg Prod.snd (hbefore.raise_of_rejects h hr)) hr
    · refine iff_of_false (fun hu => ?_) hr
      rw [hbefore.raise_of_not_rejects h hr] at hu
      cases hu
  · rw [Outcome.all_isReplied_iff, ← Event.deficit_eq_zero_iff, ← hrejected, Nat.cast_eq_zero]
  · have hnext : e.role.next (Event.openLevels es) = Event.openLevels es := by
      rcases he with hrole | hrole <;> rw [hrole] <;> rfl
    have hraise := ht.raise h e
    rw [hnext] at hraise
    refine ⟨by rw [hraise.depth, ht.depth], ?_⟩
    rw [hraise, ht, List.map_map, List.map_map]
    rfl

/-- The closed form over a rejected event and two open levels: the first event of a global, whose
name begins something, leaves the depth of six spaces. -/
theorem depth_after_beginGlobal :
    let start : Tracer Memory Unit := fresh [3] {} ()
    let es : List Event :=
      [⟨.endModule, .nil⟩, ⟨.beginModule, .cons 1 .nil⟩, ⟨.beginTypeSection, .cons 7 .nil⟩]
    let t := (start.run (ε := Empty) .accepting es).1
    let e : Event := ⟨.beginGlobal, .cons 0 (.cons (.primitive .i32) (.cons true .nil))⟩
    t.depth = 6 ∧ (e.role = .leaf ∨ e.role = .silent) ∧ e.kind ∈ Kind.flat ∧
      (t.raise (ε := Empty) .accepting e).1.depth = 6 := by
  intro start es t e
  have hrole : e.role = .leaf ∨ e.role = .silent := by decide
  have hform := levels_closed_form (ε := Empty) .accepting 3 [] ({} : Memory) () es
  have hdepth : t.depth = 6 := rfl
  exact ⟨hdepth, hrole, by decide, ((hform.2.2.2.2.2.1 e hrole).1).trans hdepth⟩

end Tracer

end WasmTrace
