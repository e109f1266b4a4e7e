import WasmTrace.Enumerations
import WasmTrace.Opcode
import WasmTrace.Text
import WasmTrace.ValType
import WasmTrace.Values
import WasmTrace.Vec128

/-!
# Arguments of events

Each kind of event has a signature: the names and the types of its arguments, in order.  `Args`
holds the values of a signature, and a `Slot` is a position in a signature, so that looking up an
argument needs no cast and cannot fail.

A function of all arguments takes them one by one.  The main statement is `Args.apply_curry`: it is
the same whether arguments are taken one by one or as a whole.
-/

namespace WasmTrace

/-- The type of an argument. -/
inductive ArgType where
  /-- An index, a count, flags, or a bit pattern of 32 bits. -/
  | u32
  /-- An offset, a size, an address, or a bit pattern of 64 bits. -/
  | u64
  /-- A truth value. -/
  | flag
  /-- Bytes of the binary: a name or data. -/
  | bytes
  /-- A value type. -/
  | valType
  /-- A list of value types. -/
  | valTypes
  /-- A list of indices. -/
  | indices
  /-- Limits of a table or a memory. -/
  | limits
  /-- An opcode. -/
  | opcode
  /-- A vector. -/
  | vec128
  /-- The kind of an exported item. -/
  | itemKind
  /-- A section. -/
  | sectionId
  /-- The kind of a relocation. -/
  | relocKind
  /-- The kind of a symbol. -/
  | symbolKind
  /-- The kind of a member of a COMDAT group. -/
  | comdatKind
  /-- A problem found by the reader. -/
  | parseError
  /-- A position of the reader. -/
  | position
  deriving DecidableEq, Repr

/-- The values of a type of arguments. -/
abbrev ArgType.Value : ArgType → Type
  | .u32 => UInt32
  | .u64 => UInt64
  | .flag => Bool
  | .bytes => Bytes
  | .valType => ValType
  | .valTypes => List ValType
  | .indices => List UInt32
  | .limits => Limits
  | .opcode => Opcode
  | .vec128 => Vec128
  | .itemKind => ItemKind
  | .sectionId => SectionId
  | .relocKind => RelocKind
  | .symbolKind => SymbolKind
  | .comdatKind => ComdatKind
  | .parseError => ParseError
  | .position => Position

/-- Two values of an argument can be compared. -/
instance ArgType.instDecidableEqValue : (t : ArgType) → DecidableEq t.Value
  | .u32 => inferInstanceAs (DecidableEq UInt32)
  | .u64 => inferInstanceAs (DecidableEq UInt64)
  | .flag => inferInstanceAs (DecidableEq Bool)
  | .bytes => inferInstanceAs (DecidableEq (List UInt8))
  | .valType => inferInstanceAs (DecidableEq ValType)
  | .valTypes => inferInstanceAs (DecidableEq (List ValType))
  | .indices => inferInstanceAs (DecidableEq (List UInt32))
  | .limits => inferInstanceAs (DecidableEq Limits)
  | .opcode => inferInstanceAs (DecidableEq Opcode)
  | .vec128 => inferInstanceAs (DecidableEq Vec128)
  | .itemKind => inferInstanceAs (DecidableEq ItemKind)
  | .sectionId => inferInstanceAs (DecidableEq SectionId)
  | .relocKind => inferInstanceAs (DecidableEq RelocKind)
  | .symbolKind => inferInstanceAs (DecidableEq SymbolKind)
  | .comdatKind => inferInstanceAs (DecidableEq ComdatKind)
  | .parseError => inferInstanceAs (DecidableEq ParseError)
  | .position => inferInstanceAs (DecidableEq Position)

/-- The names and types of the arguments of a kind of event. -/
abbrev Signature := List (String × ArgType)

/-- The values of all arguments of a signature. -/
inductive Args : Signature → Type where
  /-- No arguments. -/
  | nil : Args []
  /-- One argument in front of others. -/
  | cons {name : String} {t : ArgType} {sig : Signature} (value : t.Value) (rest : Args sig) :
    Args ((name, t) :: sig)

/-- A position in a signature at which there is an argument of the given type. -/
inductive Slot : Signature → ArgType → Type where
  /-- The first position. -/
  | here {name : String} {t : ArgType} {sig : Signature} : Slot ((name, t) :: sig) t
  /-- A position after the first one. -/
  | there {entry : String × ArgType} {sig : Signature} {t : ArgType} (x : Slot sig t) :
    Slot (entry :: sig) t

/-- The argument at a position. -/
def Args.get {sig : Signature} {t : ArgType} : Args sig → Slot sig t → t.Value
  | .cons value _, .here => value
  | .cons _ rest, .there x => rest.get x

/-- Two lists of arguments can be compared. -/
instance Args.instDecidableEq : {sig : Signature} → DecidableEq (Args sig)
  | _, .nil, .nil => isTrue rfl
  | _, .cons x xs, .cons y ys =>
    match decEq x y, Args.instDecidableEq xs ys with
    | isTrue hx, isTrue hxs => isTrue (by rw [hx, hxs])
    | isFalse hx, _ => isFalse fun h => hx (by injection h)
    | _, isFalse hxs => isFalse fun h => hxs (by injection h)

/-- The functions of all arguments of a signature. -/
def Signature.Fun (β : Type) : Signature → Type
  | [] => β
  | (_, t) :: sig => t.Value → Signature.Fun β sig

/-- The value of a function of all arguments. -/
def Args.apply {β : Type} : {sig : Signature} → sig.Fun β → Args sig → β
  | _, b, .nil => b
  | _, f, .cons value rest => rest.apply (f value)

/-- A function of the arguments as a whole, as a function of all arguments. -/
def Args.curry {β : Type} : {sig : Signature} → (Args sig → β) → sig.Fun β
  | [], f => f .nil
  | _ :: _, f => fun value => Args.curry fun rest => f (.cons value rest)

/-- Arguments that are taken one by one are put together again. -/
theorem Args.apply_curry {β : Type} {sig : Signature} (f : Args sig → β) (args : Args sig) :
    args.apply (Args.curry f) = f args := by
  induction args with
  | nil => rfl
  | cons value rest ih => exact ih fun rest => f (.cons value rest)

namespace Slot

variable {a b c d e : String × ArgType} {name : String} {t : ArgType} {sig : Signature}

/-- The first argument. -/
abbrev first : Slot ((name, t) :: sig) t := .here

/-- The second argument. -/
abbrev second : Slot (a :: (name, t) :: sig) t := .there .here

/-- The third argument. -/
abbrev third : Slot (a :: b :: (name, t) :: sig) t := .there (.there .here)

/-- The fourth argument. -/
abbrev fourth : Slot (a :: b :: c :: (name, t) :: sig) t := .there (.there (.there .here))

/-- The fifth argument. -/
abbrev fifth : Slot (a :: b :: c :: d :: (name, t) :: sig) t :=
  .there (.there (.there (.there .here)))

/-- The sixth argument. -/
abbrev sixth : Slot (a :: b :: c :: d :: e :: (name, t) :: sig) t :=
  .there (.there (.there (.there (.there .here))))

end Slot

end WasmTrace
