import WasmTrace.Proofs.Cutting

/-!
# Lines from fragments

A sink of lines does not choose how its bytes arrive: a part may be empty, end inside a line or
inside a character, or hold several lines.  What is handed on depends on the bytes alone.  Between
writes the sink may be flushed, and it is flushed once more when it is dropped.

`Bytes.scan` goes through a buffer by offsets, from one newline to the next, and tells how much of
the buffer is done with; `LineSink.write_eq_scan` says that a sink may find its lines in this way.
The main statement is `LineSink.every_byte_handed_on`: no byte is lost, repeated or moved.
-/

namespace WasmTrace

open Bytes (newline)

/-! ## Cutting in parts -/

namespace Bytes

/-- Lines with their newlines, and what follows them, are cut at these newlines. -/
lemma cut_terminated {lines : List Bytes} {rest : Bytes} (hlines : ∀ line ∈ lines, newline ∉ line)
    (hrest : newline ∉ rest) : cut (terminated newline lines ++ rest) = (lines, rest) := by
  obtain ⟨hfound, hlast⟩ := newline_not_mem_cut (terminated newline lines ++ rest)
  have hjoin : terminated newline (cut (terminated newline lines ++ rest)).1 ++
      (cut (terminated newline lines ++ rest)).2 = terminated newline lines ++ rest := cut_join _
  have hsplit := congrArg (List.splitOn newline) hjoin
  rw [splitOn_terminated newline hfound, splitOn_terminated newline hlines,
    List.splitOn_eq_singleton hlast, List.splitOn_eq_singleton hrest] at hsplit
  obtain ⟨hfirst, hsecond⟩ := List.append_inj' hsplit rfl
  exact Prod.ext hfirst (List.singleton_inj.mp hsecond)

/-- The lines of a cut and what follows them are the pieces between newlines. -/
lemma cut_splitOn (bs : Bytes) : (cut bs).1 ++ [(cut bs).2] = bs.splitOn newline := by
  obtain ⟨hlines, hrest⟩ := newline_not_mem_cut bs
  have hjoin : terminated newline (cut bs).1 ++ (cut bs).2 = bs := cut_join bs
  have hsplit := splitOn_terminated newline hlines (cut bs).2
  rw [hjoin, List.splitOn_eq_singleton hrest] at hsplit
  exact hsplit.symm

/-- Bytes may be cut in two goes, the second one from what the first one leaves. -/
lemma cut_append (a b : Bytes) :
    cut (a ++ b) = ((cut a).1 ++ (cut ((cut a).2 ++ b)).1, (cut ((cut a).2 ++ b)).2) := by
  obtain ⟨hlines, -⟩ := newline_not_mem_cut a
  obtain ⟨hmore, hrest⟩ := newline_not_mem_cut ((cut a).2 ++ b)
  have ha : terminated newline (cut a).1 ++ (cut a).2 = a := cut_join a
  have hb : terminated newline (cut ((cut a).2 ++ b)).1 ++ (cut ((cut a).2 ++ b)).2 =
      (cut a).2 ++ b := cut_join _
  have hboth : a ++ b = terminated newline ((cut a).1 ++ (cut ((cut a).2 ++ b)).1) ++
      (cut ((cut a).2 ++ b)).2 := by
    rw [terminated_append, List.append_assoc, hb, ← List.append_assoc, ha]
  rw [hboth]
  exact cut_terminated (List.forall_mem_append.mpr ⟨hlines, hmore⟩) hrest

/-- The first line of bytes is what stands before their first newline. -/
lemma cut_append_newline {line : Bytes} (hline : newline ∉ line) (rest : Bytes) :
    cut (line ++ newline :: rest) = (line :: (cut rest).1, (cut rest).2) := by
  obtain ⟨hlines, hrest⟩ := newline_not_mem_cut rest
  have hjoin : terminated newline (cut rest).1 ++ (cut rest).2 = rest := cut_join rest
  have hboth : line ++ newline :: rest =
      terminated newline (line :: (cut rest).1) ++ (cut rest).2 := by
    rw [terminated_cons, List.append_assoc, List.cons_append, hjoin]
  rw [hboth]
  exact cut_terminated (List.forall_mem_cons.mpr ⟨hline, hlines⟩) hrest

/-- Bytes without a newline are not cut. -/
lemma cut_of_not_mem {bs : Bytes} (h : newline ∉ bs) : cut bs = ([], bs) :=
  cut_terminated (List.forall_mem_nil _) h

/-! ## Going through a buffer -/

/-- A newline is found behind a line: what stands before it has none. -/
lemma eq_line_append {bs : Bytes} {length : Nat} (h : bs.idxOf? newline = some length) :
    length < bs.length ∧ newline ∉ bs.take length ∧
      bs = bs.take length ++ newline :: bs.drop (length + 1) := by
  obtain ⟨hlt, hat, hbefore⟩ := List.idxOf?_eq_some_iff.mp h
  refine ⟨hlt, ?_, ?_⟩
  · intro hmem
    obtain ⟨i, hi, heq⟩ := List.mem_take_iff_getElem.mp hmem
    exact hbefore i (by omega) heq
  · rw [← hat, ← List.drop_eq_getElem_cons hlt, List.take_append_drop]

/-- The lines of a buffer from an offset on, found one after the other by the offsets of their
newlines, and the offset behind the last newline. -/
def scan (buffer : Bytes) (start : Nat) : List Bytes × Nat :=
  match _hfound : (buffer.drop start).idxOf? newline with
  | none => ([], start)
  | some length =>
    let later := scan buffer (start + length + 1)
    ((buffer.drop start).take length :: later.1, later.2)
termination_by buffer.length - start
decreasing_by
  have hlt := (eq_line_append _hfound).1
  rw [List.length_drop] at hlt
  omega

lemma scan_of_none {buffer : Bytes} {start : Nat} (h : (buffer.drop start).idxOf? newline = none) :
    scan buffer start = ([], start) := by
  rw [scan]
  split
  · rfl
  · next hsome => exact absurd (h.symm.trans hsome) nofun

lemma scan_of_some {buffer : Bytes} {start length : Nat}
    (h : (buffer.drop start).idxOf? newline = some length) :
    scan buffer start =
      ((buffer.drop start).take length :: (scan buffer (start + length + 1)).1,
        (scan buffer (start + length + 1)).2) := by
  rw [scan]
  split
  · next hnone => exact absurd (h.symm.trans hnone) nofun
  · next hsome =>
    obtain rfl := Option.some.inj (h.symm.trans hsome)
    rfl

/-- **Going through a buffer cuts it.**  The lines found are those of a cut, and what follows them
begins at the last offset, which is inside the buffer. -/
theorem cut_drop_eq_scan (buffer : Bytes) (start : Nat) (hstart : start ≤ buffer.length) :
    cut (buffer.drop start) = ((scan buffer start).1, buffer.drop (scan buffer start).2) ∧
      (scan buffer start).2 ≤ buffer.length := by
  -- along the newlines: behind each of them a shorter rest of the buffer is left
  induction start using scan.induct buffer with
  | case1 start hnone =>
    rw [scan_of_none hnone]
    exact ⟨cut_of_not_mem (List.idxOf?_eq_none_iff.mp hnone), hstart⟩
  | case2 start length hsome ih =>
    obtain ⟨hlt, hline, hsplit⟩ := eq_line_append hsome
    rw [List.length_drop] at hlt
    obtain ⟨hcut, hstop⟩ := ih (by omega)
    have hrest : (buffer.drop start).drop (length + 1) = buffer.drop (start + length + 1) := by
      rw [List.drop_drop, Nat.add_assoc]
    rw [hrest] at hsplit
    rw [scan_of_some hsome]
    refine ⟨?_, hstop⟩
    refine (congrArg cut hsplit).trans ?_
    rw [cut_append_newline hline, hcut]

end Bytes

namespace LineSink

/-! ## Writing and flushing -/

/-- A write hands on the lines of a cut and leaves the rest pending. -/
lemma write_eq_cut (s : LineSink) (data : Bytes) :
    Sink.write s data =
      { pending := (Bytes.cut (s.pending ++ data)).2,
        handed := s.handed ++ (Bytes.cut (s.pending ++ data)).1.map fun line => ⟨line, true⟩ } := rfl

/-- **A write may go through its buffer by offsets**: it appends the bytes to what is pending, hands
on each line that it finds, and drops what is in front of the last offset. -/
theorem write_eq_scan (s : LineSink) (data : Bytes) :
    Sink.write s data =
      { pending := (s.pending ++ data).drop (Bytes.scan (s.pending ++ data) 0).2,
        handed := s.handed ++
          (Bytes.scan (s.pending ++ data) 0).1.map fun line => ⟨line, true⟩ } := by
  obtain ⟨hcut, -⟩ := Bytes.cut_drop_eq_scan (s.pending ++ data) 0 (Nat.zero_le _)
  rw [List.drop_zero] at hcut
  rw [write_eq_cut, hcut]

/-- A flush hands on what is pending, if anything is. -/
lemma flush_eq (s : LineSink) :
    s.flush =
      { pending := [],
        handed := s.handed ++ if s.pending = [] then [] else [⟨s.pending, false⟩] } := by
  obtain ⟨pending, handed⟩ := s
  cases pending with
  | nil => simp [flush]
  | cons b pending => simp [flush]

/-- Bytes that are written in two goes are written as in one. -/
lemma write_write (s : LineSink) (a b : Bytes) :
    Sink.write (Sink.write s a) b = Sink.write s (a ++ b) := by
  rw [write_eq_cut, write_eq_cut, write_eq_cut, ← List.append_assoc, Bytes.cut_append (s.pending ++ a),
    List.map_append, List.append_assoc]

/-- Writing nothing changes nothing, unless a newline is held back. -/
lemma write_nil {s : LineSink} (h : newline ∉ s.pending) : Sink.write s [] = s := by
  rw [write_eq_cut, List.append_nil, Bytes.cut_of_not_mem h, List.map_nil, List.append_nil]

/-- **It makes no difference in which parts bytes are written.** -/
theorem writeAll_eq_write {s : LineSink} (h : newline ∉ s.pending) (parts : List Bytes) :
    Sink.writeAll s parts = Sink.write s parts.flatten := by
  induction parts generalizing s with
  | nil => exact (write_nil h).symm
  | cons part parts ih =>
    have hpending : newline ∉ (Sink.write s part).pending := (Bytes.newline_not_mem_cut _).2
    rw [Sink.writeAll_cons, ih hpending, write_write, List.flatten_cons]

/-! ## Runs -/

/-- What is done with a sink of lines. -/
inductive Action where
  /-- Bytes are written. -/
  | write (data : Bytes)
  /-- The sink is flushed. -/
  | flush

/-- The bytes that an action brings. -/
def Action.data : Action → Bytes
  | .write data => data
  | .flush => []

/-- A sink after one action. -/
def act (s : LineSink) : Action → LineSink
  | .write data => Sink.write s data
  | .flush => s.flush

/-- A sink after actions, one after the other. -/
def run (s : LineSink) (actions : List Action) : LineSink := actions.foldl act s

/-- What is true of a sink to which some bytes were written, however and with whatever flushes in
between. -/
structure Holds (s : LineSink) (written : Bytes) : Prop where
  /-- What was handed on, as it was received, and what is pending make up the bytes. -/
  joined : (s.handed.map Handed.received).flatten ++ s.pending = written
  /-- Each line is handed on by itself. -/
  lines : ∀ h ∈ s.handed, newline ∉ h.content
  /-- Each line is handed on as soon as its newline arrives. -/
  pending : newline ∉ s.pending

lemma holds_empty : Holds {} [] := ⟨rfl, List.forall_mem_nil _, List.not_mem_nil⟩

/-- A write keeps all bytes. -/
lemma Holds.write {s : LineSink} {written : Bytes} (h : Holds s written) (data : Bytes) :
    Holds (Sink.write s data) (written ++ data) := by
  obtain ⟨hlines, hrest⟩ := Bytes.newline_not_mem_cut (s.pending ++ data)
  have hjoin := Bytes.cut_join (s.pending ++ data)
  rw [write_eq_cut]
  refine ⟨?_, ?_, hrest⟩
  · rw [← h.joined, List.map_append, List.flatten_append, List.map_map, List.append_assoc,
      List.append_assoc]
    exact congrArg ((s.handed.map Handed.received).flatten ++ ·) hjoin
  · exact List.forall_mem_append.mpr ⟨h.lines, List.forall_mem_map.mpr hlines⟩

/-- A flush keeps all bytes. -/
lemma Holds.flush {s : LineSink} {written : Bytes} (h : Holds s written) :
    Holds s.flush written := by
  rw [flush_eq]
  refine ⟨?_, List.forall_mem_append.mpr ⟨h.lines, ?_⟩, List.not_mem_nil⟩
  · rw [← h.joined, List.map_append, List.flatten_append, List.append_nil]
    split
    · next hnil => rw [hnil]; rfl
    · exact congrArg _ (List.append_nil _)
  · split
    · exact List.forall_mem_nil _
    · exact List.forall_mem_singleton.mpr h.pending

/-- **One action keeps all bytes.** -/
lemma Holds.act {s : LineSink} {written : Bytes} (h : Holds s written) (a : Action) :
    Holds (s.act a) (written ++ a.data) := by
  cases a with
  | write data => exact h.write data
  | flush =>
    rw [Action.data, List.append_nil]
    exact h.flush

/-- A run keeps all bytes. -/
lemma Holds.run {s : LineSink} {written : Bytes} (h : Holds s written) (actions : List Action) :
    Holds (s.run actions) (written ++ (actions.map Action.data).flatten) := by
  induction actions generalizing s written with
  | nil => rwa [List.map_nil, List.flatten_nil, List.append_nil]
  | cons a actions ih =>
    rw [List.map_cons, List.flatten_cons, ← List.append_assoc]
    exact ih (h.act a)

/-- **Every byte is handed on, once and in order.**  Write bytes to a fresh sink and flush it, in any
order and in whatever parts the bytes arrive.  Then at any time:

* nothing with a newline is pending, and no line that was handed on has a newline in it;
* more bytes hand on the pieces in front of their newlines, the first one completing what was
  pending, empty ones included, and leave the last piece pending; in which parts they are written,
  and whether a part is empty or ends inside a character, makes no difference, and neither does
  going through the buffer by offsets;
* a flush hands on what is pending as one line without a newline if anything is pending, and
  otherwise nothing;
* what was handed on when the sink is dropped, that is flushed once more, makes up all bytes written:
  each line with its newline, if it was handed on because of one. -/
theorem every_byte_handed_on (actions : List Action) :
    let s : LineSink := run {} actions
    (newline ∉ s.pending ∧ ∀ h ∈ s.handed, newline ∉ h.content) ∧
      (∀ parts : List Bytes, ∃ lines : List Bytes,
        lines ++ [(Sink.writeAll s parts).pending] = (s.pending ++ parts.flatten).splitOn newline ∧
        (Sink.writeAll s parts).handed = s.handed ++ lines.map (fun line => ⟨line, true⟩) ∧
        Sink.writeAll s parts = Sink.write s parts.flatten) ∧
      (∀ data : Bytes,
        let buffer := s.pending ++ data
        Sink.write s data =
          { pending := buffer.drop (Bytes.scan buffer 0).2,
            handed := s.handed ++ (Bytes.scan buffer 0).1.map fun line => ⟨line, true⟩ }) ∧
      (s.flush.pending = [] ∧
        s.flush.handed = s.handed ++ if s.pending = [] then [] else [⟨s.pending, false⟩]) ∧
      (s.flush.handed.map Handed.received).flatten = (actions.map Action.data).flatten := by
  intro s
  have hs : Holds s (actions.map Action.data).flatten := holds_empty.run actions
  refine ⟨⟨hs.pending, hs.lines⟩, fun parts => ?_, write_eq_scan s, ?_, ?_⟩
  · have hwrite := writeAll_eq_write hs.pending parts
    refine ⟨(Bytes.cut (s.pending ++ parts.flatten)).1, ?_, ?_, hwrite⟩
    · rw [hwrite]
      exact Bytes.cut_splitOn _
    · rw [hwrite]
      rfl
  · rw [flush_eq]
    exact ⟨rfl, rfl⟩
  · have hjoined := hs.flush.joined
    rw [flush_eq, List.append_nil] at hjoined
    rw [flush_eq]
    exact hjoined

/-- A line in three parts, the second one ending inside a character, and a rest that is flushed. -/
example :
    let s := run {} [.write [97, 0xC3], .write [], .write [0xA9, newline, newline, 98], .flush]
    s.pending = [] ∧
      s.handed = [⟨[97, 0xC3, 0xA9], true⟩, ⟨[], true⟩, ⟨[98], false⟩] := by
  decide

end LineSink

end WasmTrace
