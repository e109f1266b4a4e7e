import WasmTrace.Proofs.CleanPrefix

/-!
# One report of one fault

A latch says in three ways that its writer failed: it is closed from then on, it raises a warning,
and it stores the fault until somebody takes it.  Whoever asks first gets the fault, by asking for
it or by a flush, and nobody gets it again.  A flush of the writer that fails is another matter: it
is the answer to that flush and leaves no trace.

What the writer did is known from its calls, so a latch is looked at together with the same latch
over a writer that notes them.  The main statement is `Latch.fault_reported_once`.
-/

namespace WasmTrace

universe u

namespace Writer

variable {ω : Type u} [Writer ω]

/-! ## The first fault -/

/-- The fault of a call that failed. -/
def Attempt.fault? (a : Attempt) : Option Fault :=
  match a.answer with
  | .accepted n => if n = 0 then some .wroteNothing else none
  | .interrupted => none
  | .failed reason => some (.reported reason)

/-- A call has a fault exactly if it failed. -/
lemma Attempt.isSome_fault? (a : Attempt) : a.fault?.isSome = a.failed := by
  obtain ⟨data, _ | _ | reason⟩ := a
  · next n => cases n <;> rfl
  · rfl
  · rfl

/-- The fault of the first call that failed. -/
def firstFault? (attempts : List Attempt) : Option Fault := attempts.findSome? Attempt.fault?

/-- There is a first fault exactly if a call failed. -/
lemma isSome_firstFault?_iff (attempts : List Attempt) :
    (firstFault? attempts).isSome = true ↔ ∃ a ∈ attempts, a.failed = true := by
  simp only [firstFault?, List.findSome?_isSome_iff, Attempt.isSome_fault?]

/-- The first fault of more calls is the one before them, if there is one. -/
lemma firstFault?_append (attempts more : List Attempt) :
    firstFault? (attempts ++ more) = (firstFault? attempts).or (firstFault? more) :=
  List.findSome?_append

namespace Noting

/-- A call is noted with its answer. -/
lemma attempts_of_write {s s' : Noting ω} {data : Bytes} {answer : WriteAnswer}
    (h : Writer.write s data = (s', answer)) : s'.attempts = s.attempts ++ [⟨data, answer⟩] := by
  rw [write_def] at h
  obtain ⟨rfl, rfl⟩ := Prod.mk.inj h
  rfl

/-- **The fault of writing everything** is that of the first call that failed on the way. -/
lemma exists_firstFault?_writeAll (s : Noting ω) (data : Bytes) :
    ∃ calls, (writeAll s data).1.attempts = s.attempts ++ calls ∧
      firstFault? calls = (writeAll s data).2 := by
  -- along the calls: a call without a fault leaves the first fault to those after it
  induction s, data using writeAll.induct with
  | case1 s =>
    rw [writeAll_nil]
    exact ⟨[], (List.append_nil _).symm, rfl⟩
  | case2 s data hdata s' hcall =>
    rw [writeAll_of_ne_nil s hdata, hcall]
    exact ⟨[⟨data, .accepted 0⟩], attempts_of_write hcall, rfl⟩
  | case3 s data hdata s' n hcall hn ih =>
    obtain ⟨calls, hcalls, hfault⟩ := ih
    rw [writeAll_of_ne_nil s hdata, hcall]
    dsimp only
    rw [if_neg hn]
    refine ⟨⟨data, .accepted n⟩ :: calls, ?_, ?_⟩
    · rw [hcalls, attempts_of_write hcall, List.append_assoc, List.singleton_append]
    · rw [← hfault, firstFault?, List.findSome?_cons, Attempt.fault?]
      dsimp only
      rw [if_neg hn]
      rfl
  | case4 s data hdata s' hcall ih =>
    obtain ⟨calls, hcalls, hfault⟩ := ih
    rw [writeAll_of_ne_nil s hdata, hcall]
    refine ⟨⟨data, .interrupted⟩ :: calls, ?_, hfault⟩
    rw [hcalls, attempts_of_write hcall, List.append_assoc, List.singleton_append]
  | case5 s data hdata s' reason hcall =>
    rw [writeAll_of_ne_nil s hdata, hcall]
    exact ⟨[⟨data, .failed reason⟩], attempts_of_write hcall, rfl⟩

end Noting

end Writer

namespace Latch

variable {ω : Type u}

/-! ## What a latch tells -/

/-- What a latch tells about a writer whose first fault is `first`, if it has one, after some faults
were handed out. -/
structure Reports (s : Latch ω) (first : Option Fault) (handed : List Fault) : Prop where
  /-- The latch is closed exactly if there was a fault. -/
  closed : s.closed = first.isSome
  /-- There is one warning for it. -/
  warnings : s.warnings = first.toList
  /-- It was handed out once, or it is still stored. -/
  once : handed ++ s.fault.toList = first.toList

namespace Reports

variable {s : Latch ω} {first : Option Fault} {handed : List Fault}

/-- A stored fault is the first one. -/
lemma of_stored (h : Reports s first handed) {f : Fault} (hs : s.fault = some f) :
    first = some f := by
  have honce := h.once
  rw [hs, Option.toList_some] at honce
  have hmem : f ∈ first.toList := honce ▸ List.mem_append_right handed (List.mem_singleton_self f)
  exact Option.mem_toList.mp hmem

/-- An open latch has nothing to tell. -/
lemma of_open (h : Reports s first handed) (hs : s.closed = false) :
    first = none ∧ s.warnings = [] ∧ handed = [] ∧ s.fault = none := by
  obtain rfl : first = none := by
    rw [← Option.isNone_iff_eq_none, ← Option.isSome_eq_false_iff, ← h.closed, hs]
  obtain ⟨hhanded, hfault⟩ := List.append_eq_nil_iff.mp h.once
  exact ⟨rfl, h.warnings, hhanded, Option.toList_eq_nil_iff.mp hfault⟩

end Reports

/-! ## Actions -/

/-- What is done with a latch. -/
inductive Action where
  /-- Bytes are written. -/
  | write (data : Bytes)
  /-- A formatted text is written. -/
  | writeFormatted (pieces : List Piece)
  /-- The fault is asked for. -/
  | takeFault
  /-- The latch is flushed. -/
  | flush

/-- Whether an action may come back with a fault. -/
def Action.asks : Action → Bool
  | .write _ | .writeFormatted _ => false
  | .takeFault | .flush => true

variable [Writer ω]

/-- A latch after an action, and the fault that the action came back with. -/
def act (s : Latch ω) : Action → Latch ω × Option Fault
  | .write data => (Sink.write s data, none)
  | .writeFormatted pieces => (Sink.writeFormatted s pieces, none)
  | .takeFault => s.takeFault
  | .flush => s.flush

/-- A latch after actions, one after the other. -/
def run (s : Latch ω) (actions : List Action) : Latch ω :=
  actions.foldl (fun s a => (s.act a).1) s

/-- The stored fault, if an action hands it out.  A flush that finds none stored may come back with
a fault of its own. -/
def handsOut (s : Latch ω) : Action → Option Fault
  | .write _ | .writeFormatted _ => none
  | .takeFault => (s.act .takeFault).2
  | .flush => if s.fault.isSome then (s.act .flush).2 else none

/-- The faults that actions hand out, in order. -/
def handedOut (s : Latch ω) : List Action → List Fault
  | [] => []
  | a :: actions => (s.handsOut a).toList ++ handedOut (s.act a).1 actions

/-- The calls of a writer when actions are taken on a latch over it. -/
def attempts (w : ω) (actions : List Action) : List Writer.Attempt :=
  (run (.ofWriter (Writer.Noting.ofWriter w)) actions).writer.attempts

/-- A stored fault is handed out, and nothing else happens: the writer is not flushed. -/
lemma act_of_stored {s : Latch ω} {f : Fault} (h : s.fault = some f) :
    s.act .takeFault = ({ s with fault := none }, some f) ∧
      s.act .flush = ({ s with fault := none }, some f) := by
  obtain ⟨writer, closed, fault, warnings⟩ := s
  cases h
  exact ⟨rfl, rfl⟩

/-- Without a stored fault there is none to be taken, and a flush is one of the writer. -/
lemma act_of_not_stored {s : Latch ω} (h : s.fault = none) :
    s.act .takeFault = (s, none) ∧
      s.act .flush =
        ({ s with writer := (Writer.flush s.writer).1 },
          (Writer.flush s.writer).2.map .reported) := by
  obtain ⟨writer, closed, fault, warnings⟩ := s
  cases h
  exact ⟨rfl, rfl⟩

/-- An open latch stores the fault of a write, if there is one, and raises a warning for it. -/
lemma told_of_open {s : Latch ω} (h : s.closed = false) (data : Bytes) :
    (s.write data).fault = (Writer.writeAll s.writer data).2.or s.fault ∧
      (s.write data).warnings = s.warnings ++ (Writer.writeAll s.writer data).2.toList := by
  have hopen : ¬ s.closed = true := by rw [h]; exact Bool.false_ne_true
  rw [write, if_neg hopen]
  rcases Writer.writeAll s.writer data with ⟨writer, _ | fault⟩
  · exact ⟨rfl, (List.append_nil _).symm⟩
  · exact ⟨rfl, rfl⟩

/-- A closed latch drops all parts of what it receives. -/
lemma writeAll_of_closed {s : Latch ω} (h : s.closed = true) (parts : List Bytes) :
    Sink.writeAll s parts = s := by
  induction parts with
  | nil => rfl
  | cons part parts ih =>
    have hpart : Sink.write s part = s := write_of_closed h part
    rw [Sink.writeAll_cons, hpart, ih]

/-- A closed latch stays closed. -/
lemma closed_act {s : Latch ω} (h : s.closed = true) (a : Action) : (s.act a).1.closed = true := by
  cases a with
  | write data => exact (congrArg closed (write_of_closed h data)).trans h
  | writeFormatted pieces => exact (congrArg closed (writeAll_of_closed h _)).trans h
  | takeFault => exact h
  | flush =>
    cases hs : s.fault with
    | none => rwa [(act_of_not_stored hs).2]
    | some f => rwa [(act_of_stored hs).2]

lemma closed_run {s : Latch ω} (h : s.closed = true) (actions : List Action) :
    (s.run actions).closed = true := by
  induction actions generalizing s with
  | nil => exact h
  | cons a actions ih => exact ih (closed_act h a)

/-! ## Runs -/

/-- Actions may be taken in two goes. -/
lemma run_append (s : Latch ω) (actions more : List Action) :
    s.run (actions ++ more) = (s.run actions).run more :=
  List.foldl_append

/-- What is handed out in two goes. -/
lemma handedOut_append (s : Latch ω) (actions more : List Action) :
    s.handedOut (actions ++ more) = s.handedOut actions ++ (s.run actions).handedOut more := by
  induction actions generalizing s with
  | nil => rfl
  | cons a actions ih =>
    rw [List.cons_append, handedOut, ih, handedOut, List.append_assoc]
    rfl

/-- Actions that do not ask hand out nothing. -/
lemma handedOut_of_not_asks (s : Latch ω) {actions : List Action}
    (h : ∀ a ∈ actions, a.asks = false) : s.handedOut actions = [] := by
  induction actions generalizing s with
  | nil => rfl
  | cons a actions ih =>
    obtain ⟨ha, hactions⟩ := List.forall_mem_cons.mp h
    have hnone : s.handsOut a = none := by
      cases a with
      | write data => rfl
      | writeFormatted pieces => rfl
      | takeFault => cases ha
      | flush => cases ha
    rw [handedOut, hnone, ih _ hactions]
    rfl

/-! ## Reports along runs -/

section Noting

variable {s : Latch (Writer.Noting ω)} {first : Option Fault} {handed : List Fault}

/-- **A write is reported**: it closes an open latch exactly if the writer fails. -/
lemma Reports.write (h : Reports s (Writer.firstFault? s.writer.attempts) handed) (data : Bytes) :
    Reports (s.write data) (Writer.firstFault? (s.write data).writer.attempts) handed := by
  cases hclosed : s.closed with
  | true => rwa [write_of_closed hclosed]
  | false =>
    obtain ⟨hnone, hwarnings, rfl, hfault⟩ := h.of_open hclosed
    obtain ⟨calls, hcalls, hfirst⟩ := Writer.Noting.exists_firstFault?_writeAll s.writer data
    have hmore : Writer.firstFault? (s.writer.attempts ++ calls) =
        (Writer.writeAll s.writer data).2 := by
      rw [Writer.firstFault?_append, hnone, Option.none_or, hfirst]
    obtain ⟨hwriter, hcloses⟩ := write_of_open hclosed data
    obtain ⟨hstores, hwarns⟩ := told_of_open hclosed data
    rw [hwriter, hcalls, hmore]
    refine ⟨hcloses, ?_, ?_⟩
    · rw [hwarns, hwarnings, List.nil_append]
    · rw [hstores, hfault, Option.or_none, List.nil_append]

/-- The parts of a formatted text are reported one by one. -/
lemma Reports.writeAll (h : Reports s (Writer.firstFault? s.writer.attempts) handed)
    (parts : List Bytes) :
    Reports (Sink.writeAll s parts)
      (Writer.firstFault? (Sink.writeAll s parts).writer.attempts) handed := by
  induction parts generalizing s with
  | nil => exact h
  | cons part parts ih => exact ih (h.write part)

/-- **One action is reported**: what it hands out is no longer stored. -/
lemma Reports.act (h : Reports s (Writer.firstFault? s.writer.attempts) handed) (a : Action) :
    Reports (s.act a).1 (Writer.firstFault? (s.act a).1.writer.attempts)
      (handed ++ (s.handsOut a).toList) := by
  cases a with
  | write data =>
    rw [handsOut, Option.toList_none, List.append_nil]
    exact h.write data
  | writeFormatted pieces =>
    rw [handsOut, Option.toList_none, List.append_nil]
    exact h.writeAll _
  | takeFault => exact ⟨h.closed, h.warnings, (List.append_nil _).trans h.once⟩
  | flush =>
    cases hs : s.fault with
    | none =>
      rw [handsOut, hs, (act_of_not_stored hs).2]
      exact ⟨h.closed, h.warnings, (congrArg (· ++ _) (List.append_nil _)).trans h.once⟩
    | some f =>
      have honce := h.once
      rw [hs] at honce
      rw [handsOut, hs, (act_of_stored hs).2]
      exact ⟨h.closed, h.warnings, (List.append_nil _).trans honce⟩

/-- A run is reported. -/
lemma Reports.run (h : Reports s (Writer.firstFault? s.writer.attempts) handed)
    (actions : List Action) :
    Reports (s.run actions) (Writer.firstFault? (s.run actions).writer.attempts)
      (handed ++ s.handedOut actions) := by
  induction actions generalizing s handed with
  | nil => rwa [handedOut, List.append_nil]
  | cons a actions ih =>
    rw [handedOut, ← List.append_assoc]
    exact ih (h.act a)

end Noting

/-! ## Noting changes nothing else -/

section Noted

variable {s : Latch ω} {s' : Latch (Writer.Noting ω)}

/-- Noting the calls of the writer makes no difference to an action. -/
lemma Noted.act (h : Noted s s') (a : Action) :
    Noted (s.act a).1 (s'.act a).1 ∧ s'.handsOut a = s.handsOut a := by
  cases a with
  | write data => exact ⟨noted_lasting s s' data h, rfl⟩
  | writeFormatted pieces => exact ⟨noted_lasting.writeAll h _, rfl⟩
  | takeFault =>
    obtain ⟨rfl, hcalls⟩ := h
    exact ⟨⟨rfl, hcalls⟩, rfl⟩
  | flush =>
    obtain ⟨writer, closed, fault, warnings⟩ := s'
    obtain ⟨rfl, hcalls⟩ := h
    cases fault with
    | none => exact ⟨⟨rfl, hcalls⟩, rfl⟩
    | some f => exact ⟨⟨rfl, hcalls⟩, rfl⟩

/-- Noting the calls of the writer makes no difference to a run. -/
lemma Noted.run (h : Noted s s') (actions : List Action) :
    Noted (s.run actions) (s'.run actions) ∧ s'.handedOut actions = s.handedOut actions := by
  induction actions generalizing s s' with
  | nil => exact ⟨h, rfl⟩
  | cons a actions ih =>
    obtain ⟨hact, hhands⟩ := h.act a
    obtain ⟨hrun, hhanded⟩ := ih hact
    refine ⟨hrun, ?_⟩
    rw [handedOut, handedOut, hhands, hhanded]

end Noted

/-- What a latch over any writer tells after actions. -/
lemma reports_run (w : ω) (actions : List Action) :
    Reports (run (.ofWriter w) actions) (Writer.firstFault? (attempts w actions))
      (handedOut (.ofWriter w) actions) := by
  have hstart : Noted (.ofWriter w) (.ofWriter (Writer.Noting.ofWriter w)) :=
    ⟨rfl, Writer.stopAtFailure_nil⟩
  obtain ⟨⟨hnoted, -⟩, hhanded⟩ := hstart.run actions
  have hfresh : Reports (.ofWriter (Writer.Noting.ofWriter w)) (Writer.firstFault? []) [] :=
    ⟨rfl, rfl, rfl⟩
  have hreports := hfresh.run actions
  rw [List.nil_append, hhanded] at hreports
  rw [hnoted]
  exact ⟨hreports.closed, hreports.warnings, hreports.once⟩

/-- **A fault is reported once.**  Take any actions on a fresh latch over a writer that answers as it
likes, and look at the calls of the writer.  Then at any time:

* the latch is closed exactly if a call failed, and it stays closed;
* a stored fault means that the latch is closed;
* there is one warning if a call failed and none otherwise, and it is for the first call that failed;
* the fault of that call was handed out once, or is stored and was not handed out, and no other fault
  ever was;
* as long as nobody asks, it stays stored;
* a request and a flush hand out what is stored, whichever comes first, and change nothing else: the
  writer is not flushed;
* with nothing stored, a flush comes back with what the flush of the writer comes back with.  It is
  not stored, does not close the latch and does not keep the next write from the writer. -/
theorem fault_reported_once (w : ω) (actions : List Action) :
    let s : Latch ω := run (.ofWriter w) actions
    let first := Writer.firstFault? (attempts w actions)
    (s.closed = true ↔ ∃ a ∈ attempts w actions, a.failed = true) ∧
      (∀ more, s.closed = true → (s.run more).closed = true) ∧
      (s.fault.isSome = true → s.closed = true) ∧
      s.warnings = first.toList ∧
      handedOut (.ofWriter w) actions ++ s.fault.toList = first.toList ∧
      (∀ more, s.closed = false → (∀ a ∈ more, a.asks = false) →
        (s.run more).fault = Writer.firstFault? (attempts w (actions ++ more))) ∧
      (∀ f, s.fault = some f →
        s.act .takeFault = ({ s with fault := none }, some f) ∧
        s.act .flush = ({ s with fault := none }, some f)) ∧
      (s.fault = none →
        s.act .takeFault = (s, none) ∧
        s.act .flush =
          ({ s with writer := (Writer.flush s.writer).1 },
            (Writer.flush s.writer).2.map .reported)) ∧
      (s.closed = false → ∀ data,
        ((s.act .flush).1.act (.write data)).1.writer =
          (Writer.writeAll (Writer.flush s.writer).1 data).1) := by
  intro s first
  have hs : Reports s first (handedOut (.ofWriter w) actions) := reports_run w actions
  refine ⟨?_, fun more hclosed => closed_run hclosed more, fun hfault => ?_, hs.warnings, hs.once,
    fun more hopen hmore => ?_, fun f => act_of_stored, act_of_not_stored, fun hopen data => ?_⟩
  · rw [← Writer.isSome_firstFault?_iff, hs.closed]
  · obtain ⟨f, hf⟩ := Option.isSome_iff_exists.mp hfault
    rw [hs.closed, hs.of_stored hf]
    rfl
  · have honce := (reports_run w (actions ++ more)).once
    rw [handedOut_append, (hs.of_open hopen).2.2.1, handedOut_of_not_asks _ hmore, run_append] at honce
    ext f
    rw [← Option.mem_toList, ← Option.mem_toList, ← honce]
    rfl
  · have hflushed : { s with writer := (Writer.flush s.writer).1 }.closed = false := hopen
    rw [(act_of_not_stored (hs.of_open hopen).2.2.2).2]
    exact (write_of_open hflushed data).1

/-- A writer takes three bytes, is interrupted and then fails, and its flushes fail too.  The fault of
the write is stored, and the next flush hands it out instead of flushing the writer. -/
theorem flush_hands_out_fault :
    let w : Scripted :=
      { script := [.atMost 3, .interrupt, .fail "closed"], flushReason := some "busy" }
    let s : Latch Scripted := run (.ofWriter w) [.flush, .write (Bytes.ofText "Begin")]
    s.fault = some (.reported "closed") ∧
      s.act .flush = ({ s with fault := none }, some (.reported "closed")) := by
  intro w s
  have hfault : s.fault = some (.reported "closed") := by
    dsimp only [s, w]
    cbv
  have hreport := fault_reported_once w [.flush, .write (Bytes.ofText "Begin")]
  exact ⟨hfault, (hreport.2.2.2.2.2.2.1 _ hfault).2⟩

end Latch

end WasmTrace
