import WasmTrace.Text

/-!
# Reading bytes as text

Bytes that should be UTF-8 but need not be are read one by one.  A sequence that stops being the
start of a character is given up at the byte that rules it out: what was read so far becomes one
replacement character, and that byte is read afresh.  In this way each maximal start of a
character, and each byte that starts none, is replaced by exactly one U+FFFD.

The main statement is `decode_append_newline`: a newline always ends what came before it, so a
text may be cut at its newlines before or after it is read.
-/

namespace WasmTrace

namespace Lossy

/-- The character that stands for bytes that are no character, U+FFFD. -/
def replacement : Char := '\uFFFD'

/-- Where a reader stands between two bytes. -/
inductive State where
  /-- Between two characters. -/
  | idle
  /-- Inside a character: the next byte must lie between `lowest` and `highest`, then `owed`
  more continuation bytes follow; `scalar` holds the bits read so far. -/
  | inside (owed : Nat) (lowest highest : UInt8) (scalar : Nat)
  deriving DecidableEq, Repr

/-- The least continuation byte. -/
def tailLowest : UInt8 := 0x80

/-- The greatest continuation byte. -/
def tailHighest : UInt8 := 0xBF

/-- The first byte of a character: the state after it and the characters it completes.

The ranges of the second byte after `E0`, `ED`, `F0` and `F4` leave out overlong forms,
surrogates and everything above U+10FFFF; `C0`, `C1` and the bytes from `F5` on start nothing. -/
def first (b : UInt8) : State × List Char :=
  if b < 0x80 then (.idle, [Char.ofNat b.toNat])
  else if b < 0xC2 then (.idle, [replacement])
  else if b < 0xE0 then (.inside 0 tailLowest tailHighest (b.toNat - 0xC0), [])
  else if b = 0xE0 then (.inside 1 0xA0 tailHighest 0, [])
  else if b = 0xED then (.inside 1 tailLowest 0x9F 0xD, [])
  else if b < 0xF0 then (.inside 1 tailLowest tailHighest (b.toNat - 0xE0), [])
  else if b = 0xF0 then (.inside 2 0x90 tailHighest 0, [])
  else if b < 0xF4 then (.inside 2 tailLowest tailHighest (b.toNat - 0xF0), [])
  else if b = 0xF4 then (.inside 2 tailLowest 0x8F 4, [])
  else (.idle, [replacement])

/-- One byte: the state after it and the characters it completes. -/
def State.step : State → UInt8 → State × List Char
  | .idle, b => first b
  | .inside owed lowest highest scalar, b =>
    if lowest ≤ b ∧ b ≤ highest then
      let scalar := scalar * 64 + (b.toNat - 0x80)
      match owed with
      | 0 => (.idle, [Char.ofNat scalar])
      | owed + 1 => (.inside owed tailLowest tailHighest scalar, [])
    else
      ((first b).1, replacement :: (first b).2)

/-- The end of the bytes: a character that was begun is given up. -/
def State.finish : State → List Char
  | .idle => []
  | .inside .. => [replacement]

/-- The characters read from a state on. -/
def State.read : State → Bytes → List Char
  | s, [] => s.finish
  | s, b :: bs => (s.step b).2 ++ (s.step b).1.read bs

/-- The characters that bytes are read as. -/
def decode (bs : Bytes) : List Char := State.idle.read bs

/-- The text that bytes are read as. -/
def text (bs : Bytes) : String := String.ofList (decode bs)

/-- Between two characters, a newline is read as itself. -/
theorem first_newline : first Bytes.newline = (.idle, ['\n']) := by decide

/-- A newline is never part of a longer character: it lies below all continuation bytes. -/
def State.Sane : State → Prop
  | .idle => True
  | .inside _ lowest _ _ => tailLowest ≤ lowest

/-- The first byte of a character leads to a sane state. -/
theorem first_sane (b : UInt8) : (first b).1.Sane := by
  unfold first
  repeat' split
  all_goals simp [State.Sane, tailLowest]

/-- Sanity is kept by each byte. -/
theorem State.step_sane {s : State} (h : s.Sane) (b : UInt8) : (s.step b).1.Sane := by
  cases s with
  | idle => exact first_sane b
  | inside owed lowest highest scalar =>
    unfold State.step
    dsimp only
    split
    · split
      · trivial
      · simp [State.Sane]
    · exact first_sane b

/-- A newline ends what was begun, is read as itself, and leaves nothing behind. -/
theorem State.step_newline {s : State} (h : s.Sane) :
    s.step Bytes.newline = (.idle, s.finish ++ ['\n']) := by
  cases s with
  | idle => simpa [State.step, State.finish] using first_newline
  | inside owed lowest highest scalar =>
    have hlow : ¬ lowest ≤ Bytes.newline := by
      have h' : tailLowest.toNat ≤ lowest.toNat := h
      have hn : Bytes.newline.toNat = 10 := rfl
      have ht : tailLowest.toNat = 128 := rfl
      intro hle
      have hle' : lowest.toNat ≤ Bytes.newline.toNat := hle
      omega
    simp [State.step, State.finish, hlow, first_newline]

/-- Reading across a newline, from any sane state. -/
theorem State.read_append_newline {s : State} (h : s.Sane) (a b : Bytes) :
    s.read (a ++ Bytes.newline :: b) = s.read a ++ '\n' :: decode b := by
  induction a generalizing s with
  | nil => simp [State.read, State.step_newline h, decode]
  | cons x a ih => simp [State.read, ih (State.step_sane h x)]

/-- Reading is compatible with cutting at a newline, whatever stands before it: unfinished and
invalid bytes included. -/
theorem decode_append_newline (a b : Bytes) :
    decode (a ++ Bytes.newline :: b) = decode a ++ '\n' :: decode b :=
  State.read_append_newline (s := .idle) trivial a b

end Lossy

end WasmTrace
