import Mathlib.Data.List.Forall2
import WasmTrace.Proofs.Cutting
import WasmTrace.Proofs.Transcript
import WasmTrace.Proofs.Verbatim

/-!
# The lines of a trace

A trace that is cut at its newlines has one line for each accepted event that has a line, unless a
string that is shown as it is breaks one.  Such a line can be read back: the spaces in front of it
count the open levels, and the word after them names the kind, since what follows a name is never
part of a word.

The main statement is `trace_lines`.
-/

namespace WasmTrace

universe u v w

open Bytes (newline space ofText)

/-! ## What follows a name -/

/-- A text that ends the word in front of it: none, or a parenthesis, possibly after a space. -/
def Delimited (text : Bytes) : Prop := text = [] ∨ ofText "(" <+: text ∨ ofText " (" <+: text

/-- A delimited text does not begin with a word. -/
lemma Delimited.takeWhile_isWord {text : Bytes} (h : Delimited text) :
    text.takeWhile Bytes.isWord = [] := by
  rcases h with rfl | ⟨rest, rfl⟩ | ⟨rest, rfl⟩ <;> rfl

/-- Whether a layout shows nothing or shows first a fixed text with a property. -/
def Layout.beginsWith {sig : Signature} (p : String → Bool) : Layout sig → Bool
  | [] => true
  | .text s :: _ => p s
  | .field _ _ :: _ => false

/-- A layout that begins with a delimiter is shown delimited. -/
lemma Layout.delimited_render {sig : Signature} {layout : Layout sig}
    (h : layout.beginsWith fun s =>
      (ofText "(").isPrefixOf (ofText s) || (ofText " (").isPrefixOf (ofText s))
    (args : Args sig) : Delimited (layout.render args).flatten := by
  match layout with
  | [] => exact .inl rfl
  | .text s :: layout =>
    rw [flatten_render_text]
    rw [beginsWith, Bool.or_eq_true, List.isPrefixOf_iff_prefix, List.isPrefixOf_iff_prefix] at h
    refine .inr (h.imp ?_ ?_)
    · exact fun hs => hs.trans (List.prefix_append _ _)
    · exact fun hs => hs.trans (List.prefix_append _ _)
  | .field x style :: layout => exact absurd h Bool.false_ne_true

/-- What a line shows after the name is delimited. -/
lemma Event.delimited_arguments (e : Event) :
    Delimited (e.args.apply (Prescribed.arguments e.kind)) := by
  have hbegins : ∀ k : Kind, k.layout.beginsWith fun s =>
      (ofText "(").isPrefixOf (ofText s) || (ofText " (").isPrefixOf (ofText s) := by
    simp only [Bytes.ofText_eq_toByteArray]
    refine Kind.forall_of_forall_mem_all ?_
    decide +kernel
  rw [← Kind.flatten_render_layout]
  exact Layout.delimited_render (hbegins e.kind) e.args

/-! ## Reading a line -/

namespace Line

/-- The number of spaces in front of a line. -/
def indentation (line : Bytes) : Nat := (line.takeWhile (· == space)).length

/-- The kind that the first word of a line names. -/
def kind? (line : Bytes) : Option Kind :=
  Kind.ofName? ((line.dropWhile (· == space)).takeWhile Bytes.isWord)

/-- A line that begins with spaces and the name of a kind, up to the end of the line or a
parenthesis. -/
def Begins (depth : Nat) (k : Kind) (line : Bytes) : Prop :=
  ∃ rest, line = List.replicate depth space ++ ofText k.name ++ rest ∧ Delimited rest

variable {depth : Nat} {k : Kind} {line : Bytes}

/-- The first byte of a name is not a space. -/
lemma exists_name_eq_cons (k : Kind) :
    ∃ b bs, ofText k.name = b :: bs ∧ ¬ (b == space) = true := by
  obtain ⟨b, bs, hname⟩ := List.exists_cons_of_ne_nil k.name_ne_nil
  have hword := k.isWord_of_mem_name b (by rw [hname]; exact List.mem_cons_self)
  refine ⟨b, bs, hname, fun hb => ?_⟩
  rw [eq_of_beq hb] at hword
  exact absurd hword (by decide)

/-- The spaces in front of a name end where the name begins. -/
lemma span_spaces (depth : Nat) (k : Kind) (rest : Bytes) :
    let line := List.replicate depth space ++ (ofText k.name ++ rest)
    line.takeWhile (· == space) = List.replicate depth space ∧
      line.dropWhile (· == space) = ofText k.name ++ rest := by
  have hspaces : ∀ b ∈ List.replicate depth space, (b == space) = true := fun _ hb =>
    beq_iff_eq.mpr (List.eq_of_mem_replicate hb)
  obtain ⟨b, bs, hname, hb⟩ := exists_name_eq_cons k
  dsimp only
  rw [List.takeWhile_append_of_pos hspaces, List.dropWhile_append_of_pos hspaces, hname,
    List.cons_append, List.takeWhile_cons, List.dropWhile_cons, if_neg hb, if_neg hb,
    List.append_nil]
  exact ⟨rfl, rfl⟩

/-- The spaces in front of a line are exactly those that indent it. -/
lemma Begins.indentation_eq (h : Begins depth k line) : indentation line = depth := by
  obtain ⟨rest, rfl, -⟩ := h
  rw [indentation, List.append_assoc, (span_spaces depth k rest).1, List.length_replicate]

/-- The kind of a line is found again. -/
lemma Begins.kind?_eq (h : Begins depth k line) : kind? line = some k := by
  obtain ⟨rest, rfl, hrest⟩ := h
  rw [kind?, List.append_assoc, (span_spaces depth k rest).2,
    List.takeWhile_append_of_pos k.isWord_of_mem_name, hrest.takeWhile_isWord, List.append_nil,
    Kind.ofName?_name]

end Line

/-! ## The transcript line by line -/

namespace Prescribed

/-- Whether an event has a line. -/
def hasLine (e : Event) : Bool := category e.kind != .silent

/-- The line of an event at a level, without its newline. -/
def body (unit : Nat) (a : Nat × Event) : Bytes :=
  List.replicate (unit * a.1) space ++ ofText a.2.kind.name ++
    a.2.args.apply (arguments a.2.kind)

lemma begins_body (unit : Nat) (a : Nat × Event) :
    Line.Begins (unit * a.1) a.2.kind (body unit a) := ⟨_, rfl, a.2.delimited_arguments⟩

/-- One layer writes the line of an event and its newline, if the event has a line. -/
lemma lines_singleton (unit : Nat) (a : Nat × Event) :
    lines [unit] a = if hasLine a.2 then body unit a ++ [newline] else [] := by
  rw [lines, hasLine]
  cases category a.2.kind with
  | silent => rfl
  | opening => exact List.append_nil _
  | closing => exact List.append_nil _
  | leaf => exact List.append_nil _

/-- One layer writes the lines of the events one after the other, each with its newline. -/
lemma transcript_singleton (unit : Nat) (answered : List (Nat × Event)) :
    transcript [unit] answered =
      terminated newline ((answered.filter fun a => hasLine a.2).map (body unit)) := by
  induction answered with
  | nil => rfl
  | cons a answered ih =>
    rw [transcript, List.flatMap_cons, lines_singleton, List.filter_cons]
    rw [transcript] at ih
    by_cases ha : hasLine a.2 = true
    · rw [if_pos ha, if_pos ha, List.map_cons, terminated_cons, ih, List.append_assoc]
      rfl
    · rw [if_neg ha, if_neg ha, ih]
      rfl

/-- The newlines of a line without the one at its end are those of its strings. -/
lemma count_newline_body (unit : Nat) (a : Nat × Event) :
    (body unit a).count newline = a.2.strings.flatten.count newline := by
  have hspaces : (List.replicate (unit * a.1) space).count newline = 0 :=
    List.count_eq_zero.mpr fun h => absurd (List.eq_of_mem_replicate h) (by decide)
  rw [body, List.count_append, List.count_append, hspaces, a.2.kind.oneLine_name.count_newline,
    Event.count_newline_arguments, Nat.zero_add]

/-- An event without a line shows no strings. -/
lemma strings_of_not_hasLine {e : Event} (h : ¬ hasLine e = true) : e.strings = [] := by
  have hlayout : ∀ k : Kind, category k = .silent → k.layout = [] := by
    intro k hk
    cases k <;> first | rfl | cases hk
  rw [hasLine, bne_iff_ne, ne_eq, not_not] at h
  rw [Event.strings, ← Kind.strings_layout, hlayout e.kind h]
  rfl

/-- The newlines of a transcript: one for each line, and those inside the strings. -/
lemma count_newline_transcript (unit : Nat) (answered : List (Nat × Event)) :
    (transcript [unit] answered).count newline =
      (answered.filter fun a => hasLine a.2).length +
        ((answered.map Prod.snd).flatMap Event.strings).flatten.count newline := by
  induction answered with
  | nil => rfl
  | cons a answered ih =>
    rw [transcript, List.flatMap_cons, lines_singleton, List.count_append, List.filter_cons,
      List.map_cons, List.flatMap_cons, List.flatten_append, List.count_append]
    rw [transcript] at ih
    by_cases ha : hasLine a.2 = true
    · rw [if_pos ha, if_pos ha, List.count_append, count_newline_body, List.count_singleton_self,
        List.length_cons, ih]
      omega
    · rw [if_neg ha, if_neg ha, strings_of_not_hasLine ha, ih, List.flatten_nil, List.count_nil,
        Nat.zero_add, Nat.zero_add]

end Prescribed

/-! ## The trace line by line -/

/-- The level of a line is the lesser of the open levels before and after the event. -/
lemma Role.min_next (r : Role) (n : Nat) : min n (r.next n) = r.lineLevel n := by
  cases r <;> simp [Role.next, Role.lineLevel]

namespace Tracer

variable {σ : Type u} {δ : Type v} {ε : Type w}

/-- The depths of the lines of a run: for each event that is answered and has a line, the lesser of
the depths before and after it. -/
def lineDepths [Sink σ] (t : Tracer σ δ) (h : Handler σ δ ε) : List Event → List Nat
  | [] => []
  | e :: es =>
    let t' := (t.raise h e).1
    if (t.raise h e).2.isReplied && Prescribed.hasLine e then
      min t.depth t'.depth :: lineDepths t' h es
    else lineDepths t' h es

variable {unit n : Nat} {units : List Nat} {p : Option Position}

/-- The depths of the lines are the levels that the transcript gives them. -/
lemma InStep.lineDepths_eq [Sink σ] {t : Tracer σ δ}
    (ht : InStep (unit :: units) n p t) (h : Handler σ δ ε) (es : List Event) :
    t.lineDepths h es =
      ((Prescribed.accepted n es).filter fun a => Prescribed.hasLine a.2).map (unit * ·.1) := by
  induction es generalizing t n p with
  | nil => rfl
  | cons e es ih =>
    have hdepth : min t.depth (t.raise h e).1.depth = unit * e.role.lineLevel n := by
      rw [ht.depth, (ht.raise h e).depth, Nat.mul_min_mul_right, Role.min_next, Nat.mul_comm]
    rw [lineDepths, ih (ht.raise h e), hdepth, Prescribed.accepted_cons]
    by_cases hr : e.role.Rejects n
    · rw [if_pos hr, ht.raise_of_rejects h hr, Role.next_of_rejects hr]
      rfl
    · rw [if_neg hr, ht.raise_of_not_rejects h hr, List.filter_cons]
      cases Prescribed.hasLine e <;> rfl

/-- **The lines of a trace.**  Take a fresh layer of any unit over a sink in memory, in front of any
handler, and raise any events.

* The newlines in the sink are as many as the accepted events that have a line, and the newlines
  inside the strings of accepted events that are shown as they are.  No other argument adds one.
* If no newline is inside these strings, cutting the sink at its newlines gives exactly one line
  for each accepted event that has one, in order, and nothing after the last newline.  The line of
  an event begins with the unit times the open levels spaces and the name of its kind, and either
  ends there or goes on with a parenthesis, possibly after a space.
* These lines can be read back: their spaces count the depth of the layer, before or after the
  event, whichever is less; and their first words name the kinds of the events. -/
theorem trace_lines (h : Handler Memory δ ε) (unit : Nat) (inner : δ) (es : List Event) :
    let start : Tracer Memory δ := fresh [unit] {} inner
    let buffer := (start.run h es).1.sink.buffer
    let accepted := start.accepted h es
    let shown := (Prescribed.accepted 0 es).filter fun a => Prescribed.hasLine a.2
    shown.map Prod.snd = accepted.filter Prescribed.hasLine ∧
      buffer.count newline =
        (accepted.filter Prescribed.hasLine).length +
          (accepted.flatMap Event.strings).flatten.count newline ∧
      ((∀ e ∈ accepted, ∀ s ∈ e.strings, newline ∉ s) →
        ∃ lines, buffer.splitOn newline = lines ++ [[]] ∧
          List.Forall₂ (fun a line => Line.Begins (unit * a.1) a.2.kind line) shown lines ∧
          lines.map Line.indentation = start.lineDepths h es ∧
          lines.map Line.kind? = shown.map fun a => some a.2.kind) := by
  intro start buffer accepted shown
  have ht : InStep [unit] 0 none start := inStep_fresh ..
  have haccepted : accepted = (Prescribed.accepted 0 es).map Prod.snd := ht.accepted_eq h es
  have hbuffer : buffer = Prescribed.transcript [unit] (Prescribed.accepted 0 es) :=
    ht.buffer_run h es
  have hshown : shown.map Prod.snd = accepted.filter Prescribed.hasLine := by
    rw [haccepted, List.filter_map]
    rfl
  refine ⟨hshown, ?_, fun hstrings => ⟨shown.map (Prescribed.body unit), ?_, ?_, ?_, ?_⟩⟩
  · rw [hbuffer, Prescribed.count_newline_transcript, ← hshown, List.length_map, haccepted]
  · have hbodies : ∀ line ∈ shown.map (Prescribed.body unit), newline ∉ line := by
      intro line hline
      obtain ⟨a, ha, rfl⟩ := List.mem_map.mp hline
      have hmem : a.2 ∈ accepted := by
        rw [haccepted]
        exact List.mem_map_of_mem (List.mem_of_mem_filter ha)
      rw [← List.count_eq_zero, Prescribed.count_newline_body, List.count_eq_zero,
        List.mem_flatten]
      rintro ⟨s, hs, hnewline⟩
      exact hstrings a.2 hmem s hs hnewline
    have hsplit := splitOn_terminated newline hbodies []
    rwa [List.append_nil, ← Prescribed.transcript_singleton, ← hbuffer] at hsplit
  · rw [List.forall₂_map_right_iff]
    exact List.forall₂_same.mpr fun a _ => Prescribed.begins_body unit a
  · rw [ht.lineDepths_eq h es, List.map_map]
    exact List.map_congr_left fun a _ => (Prescribed.begins_body unit a).indentation_eq
  · rw [List.map_map]
    exact List.map_congr_left fun a _ => (Prescribed.begins_body unit a).kind?_eq

/-- The lines of a trace in which a mnemonic looks like the beginning of a line, and the names of an
imported function contain newlines that no line shows. -/
theorem read_back_lines :
    let es : List Event :=
      [⟨.beginModule, .cons 1 .nil⟩,
        ⟨.onImportFunc, .cons 0 (.cons [newline] (.cons [newline] (.cons 0 (.cons 0 .nil))))⟩,
        ⟨.onOpcodeBare, .nil⟩,
        ⟨.onUnaryExpr, .cons ⟨"(On Type", none, 0⟩ .nil⟩,
        ⟨.endModule, .nil⟩]
    let start : Tracer Memory Unit := fresh [3] {} ()
    (∀ e ∈ start.accepted (ε := Empty) .accepting es, ∀ s ∈ e.strings, newline ∉ s) ∧
      ∃ lines, (start.run (ε := Empty) .accepting es).1.sink.buffer.splitOn newline = lines ++ [[]] ∧
        lines.map Line.indentation = [0, 3, 3, 0] ∧
        lines.map Line.kind? =
          [some .beginModule, some .onImportFunc, some .onUnaryExpr, some .endModule] := by
  intro es start
  have hstrings :
      ∀ e ∈ start.accepted (ε := Empty) .accepting es, ∀ s ∈ e.strings, newline ∉ s := by
    decide
  obtain ⟨lines, hsplit, -, hindentation, hkind⟩ :=
    (trace_lines (ε := Empty) .accepting 3 () es).2.2 hstrings
  exact ⟨hstrings, lines, hsplit, hindentation, hkind⟩

end Tracer

end WasmTrace
