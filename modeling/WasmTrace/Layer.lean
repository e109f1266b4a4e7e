import WasmTrace.Event
import WasmTrace.Indent

/-!
# Layers

A layer turns events into lines.  It knows how many levels are open and which position was
published last; everything else it takes from the event.
-/

namespace WasmTrace

/-- What writes the lines of events. -/
structure Layer where
  /-- The open levels. -/
  indent : Indent
  /-- The position that was published last. -/
  position : Option Position := none
  deriving DecidableEq, Repr

namespace Layer

/-- A layer that has seen no event, with so many spaces for each level. -/
def fresh (unit : Nat) : Layer := { indent := .fresh unit }

/-- The spaces in front of the next line. -/
def depth (l : Layer) : Nat := l.indent.depth

/-- The layer after an event without a line, which may have published a position. -/
def note (l : Layer) (e : Event) : Layer :=
  match e.position? with
  | some position => { l with position := some position }
  | none => l

/-- The line of an event at the current level, part by part. -/
def line (l : Layer) (e : Event) : List Bytes := l.indent.runs ++ e.line

/-- The layer after an event, and the parts of the line that it writes.

A level is closed before the line and opened after it, so the lines of a first and of a last
event stand at the same depth.  An event that closes a level fails if none is open; nothing is
written then. -/
def log (l : Layer) (e : Event) : Except Unmatched (Layer × List Bytes) :=
  match e.role with
  | .silent => .ok (l.note e, [])
  | .leaf => .ok (l, l.line e)
  | .opens _ => .ok ({ l with indent := l.indent.indent }, l.line e)
  | .closes => do
    let l := { l with indent := ← l.indent.dedent }
    return (l, l.line e)

end Layer

end WasmTrace
