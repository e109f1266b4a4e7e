import WasmTrace.Proofs.Cutting
import WasmTrace.Proofs.Levels
import WasmTrace.Proofs.Simulation
import WasmTrace.Proofs.ValidText
import WasmTrace.Sink.Memory

/-!
# Sinks of lines and sinks in memory agree

A sink of lines reads each line as text when its newline arrives; the text of a sink in memory is
read from the whole buffer at once.  `LineSink.Follows` says what the one has done when the other
has received the same, in whatever parts the bytes arrived, and each write keeps it.

Every event appends complete lines.  The main statement is `line_sink_agrees`: after each step
nothing is pending, and the texts handed on are the pieces of the text of the memory.
-/

namespace WasmTrace

universe u v w

/-! ## One write -/

namespace LineSink

/-- What a sink of lines has done when a sink in memory has received the same: it handed on the
lines up to the last newline, and what follows is pending. -/
def Follows (s : LineSink) (m : Memory) : Prop :=
  ∃ lines : List Bytes, s.handed = lines.map (fun line => ⟨line, true⟩) ∧
    (∀ line ∈ lines, Bytes.newline ∉ line) ∧ Bytes.newline ∉ s.pending ∧
    m.buffer = terminated Bytes.newline lines ++ s.pending

lemma follows_empty : Follows {} {} := ⟨[], rfl, List.forall_mem_nil _, List.not_mem_nil, rfl⟩

/-- **However bytes arrive**, a sink of lines goes on to hand on the lines of what the memory
holds. -/
theorem follows_lasting : Sink.Lasting Follows := by
  rintro ⟨pending, handed⟩ ⟨buffer⟩ data ⟨lines, rfl, hlines, -, rfl⟩
  obtain ⟨hnew, hrest⟩ := Bytes.newline_not_mem_cut (pending ++ data)
  have hjoin := Bytes.cut_join (pending ++ data)
  refine ⟨lines ++ (Bytes.cut (pending ++ data)).1, ?_, ?_, hrest, ?_⟩
  · exact List.map_append.symm
  · exact List.forall_mem_append.mpr ⟨hlines, hnew⟩
  · change terminated Bytes.newline lines ++ pending ++ data = _
    rw [terminated_append, List.append_assoc, List.append_assoc]
    exact congrArg (terminated Bytes.newline lines ++ ·) hjoin.symm

/-- When the memory holds complete bytes, nothing is pending. -/
lemma Follows.exists_lines {s : LineSink} {m : Memory} (h : Follows s m)
    (hm : m.buffer.Complete) :
    ∃ lines : List Bytes, (∀ line ∈ lines, Bytes.newline ∉ line) ∧
      m.buffer = terminated Bytes.newline lines ∧
      s = { pending := [], handed := lines.map fun line => ⟨line, true⟩ } := by
  obtain ⟨pending, handed⟩ := s
  obtain ⟨lines, rfl, hlines, hpending, hbuffer⟩ := h
  rw [hbuffer] at hm
  obtain rfl : pending = [] := hm.eq_nil hpending
  exact ⟨lines, hlines, hbuffer.trans (List.append_nil _), rfl⟩

/-- Lines handed on are the pieces of the text of complete bytes. -/
lemma map_message_terminated {lines : List Bytes} (h : ∀ line ∈ lines, Bytes.newline ∉ line) :
    (lines.map fun line => Handed.message ⟨line, true⟩) ++ [""] =
      pieces (Lossy.text (terminated Bytes.newline lines)) := by
  have hpieces := Lossy.pieces_text h (List.not_mem_nil (a := Bytes.newline))
  rw [List.append_nil] at hpieces
  rw [hpieces]
  rfl

end LineSink

/-! ## One event -/

/-- The parts of a line are empty or end with a newline. -/
lemma Event.complete_parts (e : Event) (n unit : Nat) : Bytes.Complete (e.parts n unit).flatten := by
  by_cases he : e.role = .silent
  · rw [parts_of_silent he]
    exact .inl rfl
  · rw [parts_of_ne_silent he, line, List.flatten_append, List.flatten_append, ← List.append_assoc]
    exact .inr ⟨_, rfl⟩

/-- Every layer writes complete lines. -/
lemma Layer.complete_log {l l' : Layer} {e : Event} {parts : List Bytes}
    (h : l.log e = .ok (l', parts)) : Bytes.Complete parts.flatten := by
  obtain ⟨⟨n, unit⟩, p⟩ := l
  have hlog := Layer.log_opened n p unit e
  rw [opened, h] at hlog
  split at hlog
  · cases hlog
  · cases hlog
    exact e.complete_parts n unit

namespace Tracer

variable {δ : Type v} {ε : Type w}

/-- On its way through the layers an event appends complete lines. -/
lemma descend_complete (e : Event) (layers : List Layer) (m : Memory) :
    ∃ out : Bytes, (descend e layers m).2.1.buffer = m.buffer ++ out ∧ out.Complete := by
  induction layers generalizing m with
  | nil => exact ⟨[], (List.append_nil _).symm, .inl rfl⟩
  | cons layer layers ih =>
    unfold descend
    cases hlog : layer.log e with
    | error cause => exact ⟨[], (List.append_nil _).symm, .inl rfl⟩
    | ok written =>
      obtain ⟨layer', parts⟩ := written
      obtain ⟨out, hout, hcomplete⟩ := ih (Sink.writeAll m parts)
      refine ⟨parts.flatten ++ out, ?_, (Layer.complete_log hlog).append hcomplete⟩
      dsimp only
      rw [hout, Memory.buffer_writeAll, List.append_assoc]

/-- An event appends complete lines. -/
lemma raise_complete (h : Handler Memory δ ε) (t : Tracer Memory δ) (e : Event) :
    ∃ out : Bytes, (t.raise h e).1.sink.buffer = t.sink.buffer ++ out ∧ out.Complete := by
  obtain ⟨out, hout, hcomplete⟩ := descend_complete e t.layers t.sink
  refine ⟨out, ?_, hcomplete⟩
  rw [← hout, raise_eq]
  rcases descend e t.layers t.sink with ⟨layers, sink, _ | cause⟩ <;> rfl

/-- A run appends complete lines. -/
lemma run_complete (h : Handler Memory δ ε) (t : Tracer Memory δ) (ht : t.sink.buffer.Complete)
    (es : List Event) : (t.run h es).1.sink.buffer.Complete := by
  induction es generalizing t with
  | nil => exact ht
  | cons e es ih =>
    obtain ⟨out, hout, hcomplete⟩ := raise_complete h t e
    refine ih (t.raise h e).1 ?_
    rw [hout]
    exact ht.append hcomplete

/-! ## Agreement -/

/-- **A sink of lines agrees with a sink in memory.**  Raise the same events through the same layers,
in front of the same handler, once over a sink of lines and once over a sink in memory; names in
them may hold newlines and any other bytes.  Then, after each step, so at the end of the run:

* nothing is pending, and a flush hands on nothing more;
* the texts handed on are the pieces between the newlines of the text of the memory, with nothing
  left after its last newline;
* the next event hands on the pieces of the text of what it appends to the memory.

Reading bytes as text is compatible with cutting them at a newline, whatever the bytes are, and
valid text is read as it is. -/
theorem line_sink_agrees (answer : δ → Event → δ × Reply ε) (layers : List Layer) (inner : δ)
    (es : List Event) :
    let lined : Tracer LineSink δ := { layers, sink := {}, inner }
    let kept : Tracer Memory δ := { layers, sink := {}, inner }
    let s := (lined.run (.ofAnswers answer) es).1.sink
    let m := (kept.run (.ofAnswers answer) es).1.sink
    s.pending = [] ∧ s.flush = s ∧
      s.handed.map Handed.message ++ [""] = pieces m.text ∧
      (∀ e, ∃ (out : Bytes) (new : List Handed),
        (kept.run (.ofAnswers answer) (es ++ [e])).1.sink.buffer = m.buffer ++ out ∧
        (lined.run (.ofAnswers answer) (es ++ [e])).1.sink.handed = s.handed ++ new ∧
        new.map Handed.message ++ [""] = pieces (Lossy.text out)) ∧
      (∀ a b : Bytes,
        Lossy.text (a ++ Bytes.newline :: b) = Lossy.text a ++ "\n" ++ Lossy.text b) ∧
      ∀ text : String, Lossy.text (Bytes.ofText text) = text := by
  intro lined kept s m
  have hstart : lined.Alike LineSink.Follows kept := ⟨rfl, LineSink.follows_empty, rfl⟩
  have hcomplete : ∀ es, (kept.run (.ofAnswers answer) es).1.sink.buffer.Complete :=
    run_complete (.ofAnswers answer) kept (.inl rfl)
  have hfollows : ∀ es, LineSink.Follows (lined.run (.ofAnswers answer) es).1.sink
      (kept.run (.ofAnswers answer) es).1.sink :=
    fun es => (hstart.run LineSink.follows_lasting answer es).sink
  obtain ⟨lines, hlines, hm, hs⟩ := (hfollows es).exists_lines (hcomplete es)
  change m.buffer = _ at hm
  change s = _ at hs
  refine ⟨by rw [hs], by rw [hs]; rfl, ?_, fun e => ?_, Lossy.text_append_newline,
    Lossy.text_ofText⟩
  · rw [hs, List.map_map, Memory.text, hm]
    exact LineSink.map_message_terminated hlines
  · obtain ⟨out, hout, houtComplete⟩ := raise_complete (.ofAnswers answer)
      (kept.run (.ofAnswers answer) es).1 e
    obtain ⟨new, hnew, rfl⟩ := houtComplete.exists_lines
    obtain ⟨after, hafter, hm', hs'⟩ := (hfollows (es ++ [e])).exists_lines (hcomplete (es ++ [e]))
    have happend : (kept.run (.ofAnswers answer) (es ++ [e])).1.sink.buffer =
        m.buffer ++ terminated Bytes.newline new := by rw [run_concat]; exact hout
    -- the lines after the event are found in one way only
    have hcut : after = lines ++ new := by
      have hboth : terminated Bytes.newline after = terminated Bytes.newline (lines ++ new) := by
        rw [← hm', happend, hm, terminated_append]
      have hfree : ∀ line ∈ lines ++ new, Bytes.newline ∉ line :=
        List.forall_mem_append.mpr ⟨hlines, hnew⟩
      exact terminated_injective Bytes.newline hafter hfree hboth
    refine ⟨_, new.map fun line => ⟨line, true⟩, happend, ?_, ?_⟩
    · rw [hs', hs, hcut]
      exact List.map_append
    · rw [List.map_map]
      exact LineSink.map_message_terminated hnew

end Tracer

end WasmTrace
