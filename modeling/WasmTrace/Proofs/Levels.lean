import Mathlib.Tactic.Lemma
import WasmTrace.Layer

/-!
# Levels

What an event does to a layer depends on the role of the event and on the number of open levels,
and on nothing else in the layer.  `Role.Rejects`, `Role.next` and `Role.lineLevel` say when the
event is rejected, how many levels are open after it, and at which level its line stands.

The main statement is `Layer.log_opened`, the whole of what a layer does with an event.
-/

namespace WasmTrace

namespace Role

/-- Whether an event of a role is rejected while `n` levels are open. -/
def Rejects (r : Role) (n : Nat) : Prop := r = .closes ∧ n = 0

instance instDecidableRejects (r : Role) (n : Nat) : Decidable (r.Rejects n) :=
  inferInstanceAs (Decidable (r = .closes ∧ n = 0))

/-- The open levels after an event of a role, from those before it. -/
def next : Role → Nat → Nat
  | .opens _, n => n + 1
  | .closes, n => n - 1
  | .leaf, n => n
  | .silent, n => n

/-- The level at which the line of an event of a role stands, from the open levels before it: a
last event closes its level first. -/
def lineLevel : Role → Nat → Nat
  | .closes, n => n - 1
  | _, n => n

/-- An event that is rejected leaves as many levels open as there were. -/
lemma next_of_rejects {r : Role} {n : Nat} (h : r.Rejects n) : r.next n = n := by
  obtain ⟨rfl, rfl⟩ := h
  rfl

/-- Only an event that closes a level is ever rejected. -/
lemma not_rejects_of_ne {r : Role} (h : r ≠ .closes) (n : Nat) : ¬ r.Rejects n :=
  fun hr => h hr.1

end Role

namespace Event

/-- The position that was published last, after an event. -/
def published (e : Event) (before : Option Position) : Option Position := e.position?.or before

/-- The parts of the line of an event, in a layer that adds `unit` spaces for each of `n` open
levels. -/
def parts (e : Event) (n unit : Nat) : List Bytes :=
  match e.role with
  | .silent => []
  | r => Indent.spaceRuns (r.lineLevel n * unit) ++ e.line

/-- An event that is not silent has its line, behind the spaces of its level. -/
lemma parts_of_ne_silent {e : Event} (h : e.role ≠ .silent) (n unit : Nat) :
    e.parts n unit = Indent.spaceRuns (e.role.lineLevel n * unit) ++ e.line := by
  rw [parts]
  cases hr : e.role with
  | silent => exact absurd hr h
  | opens closing => rfl
  | closes => rfl
  | leaf => rfl

/-- A silent event has no line. -/
lemma parts_of_silent {e : Event} (h : e.role = .silent) (n unit : Nat) : e.parts n unit = [] := by
  rw [parts, h]

/-- The levels that are open after events, if none was open before them. -/
def openLevels (es : List Event) : Nat := es.foldl (fun n e => e.role.next n) 0

/-- The position that was published last among events, if any was. -/
def lastPosition (es : List Event) : Option Position := (es.filterMap position?).getLast?

lemma openLevels_concat (es : List Event) (e : Event) :
    openLevels (es ++ [e]) = e.role.next (openLevels es) := by
  rw [openLevels, List.foldl_append]
  rfl

lemma lastPosition_concat (es : List Event) (e : Event) :
    lastPosition (es ++ [e]) = e.published (lastPosition es) := by
  rw [lastPosition, List.filterMap_append, List.getLast?_append, published, lastPosition]
  cases hp : e.position? with
  | none => rw [List.filterMap_cons_none hp]; rfl
  | some position => rw [List.filterMap_cons_some hp]; rfl

/-- Positions are published by events without a line. -/
lemma position?_eq_none {e : Event} (h : e.role ≠ .silent) : e.position? = none := by
  obtain ⟨k, args⟩ := e
  cases k with
  | onSetState => exact absurd rfl h
  | _ => rfl

/-- An event with a line leaves the position alone. -/
lemma published_of_ne_silent {e : Event} (h : e.role ≠ .silent) (p : Option Position) :
    e.published p = p := by
  rw [published, position?_eq_none h, Option.none_or]

end Event

namespace Layer

/-- The layer that adds `unit` spaces for each of `n` open levels and saw the position `p` last. -/
def opened (n : Nat) (p : Option Position) (unit : Nat) : Layer :=
  { indent := { levels := n, unit }, position := p }

/-- An event without a line only publishes. -/
lemma note_opened (n : Nat) (p : Option Position) (unit : Nat) (e : Event) :
    (opened n p unit).note e = opened n (e.published p) unit := by
  unfold note Event.published
  cases e.position? with
  | none => rfl
  | some position => rfl

/-- **What a layer does with an event.**  It fails if the event closes a level and none is open.
Otherwise its levels change by the role of the event, its position by what the event publishes,
and it writes the line at the level of its role. -/
theorem log_opened (n : Nat) (p : Option Position) (unit : Nat) (e : Event) :
    (opened n p unit).log e =
      if e.role.Rejects n then .error { unit }
      else .ok (opened (e.role.next n) (e.published p) unit, e.parts n unit) := by
  unfold log Event.parts
  cases hr : e.role with
  | silent =>
    rw [if_neg (Role.not_rejects_of_ne (by decide) n)]
    dsimp only
    rw [note_opened]
    rfl
  | leaf =>
    rw [if_neg (Role.not_rejects_of_ne (by decide) n)]
    rw [Event.published_of_ne_silent (by rw [hr]; decide)]
    rfl
  | opens closing =>
    rw [if_neg (Role.not_rejects_of_ne (by simp) n)]
    rw [Event.published_of_ne_silent (by rw [hr]; simp)]
    rfl
  | closes =>
    rw [Event.published_of_ne_silent (by rw [hr]; decide)]
    cases n with
    | zero => rw [if_pos ⟨rfl, rfl⟩]; rfl
    | succ n => rw [if_neg fun h => Nat.succ_ne_zero n h.2]; rfl

/-- A layer never fails on an event that closes no level. -/
lemma log_isOk_of_ne_closes {e : Event} (h : e.role ≠ .closes) (l : Layer) :
    ∃ written, l.log e = .ok written := by
  obtain ⟨⟨n, unit⟩, p⟩ := l
  exact ⟨_, (log_opened n p unit e).trans (if_neg (Role.not_rejects_of_ne h n))⟩

end Layer

end WasmTrace
